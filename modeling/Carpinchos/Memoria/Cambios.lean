import Carpinchos.Memoria.Huella

/-!
# What each paging function may change

The state that a function leaves, written as the state before with some fields replaced.
What a function does not touch is then read off by `rfl`.
-/

namespace Carpinchos.Memoria

open Outcome Estado Bytes

variable {E : Entorno} {s s' : Estado} {p v : ℕ} {pid pagina k : ℤ}

section Tlb

theorem tlbHit_cases (h : tlbHit p s = .ok s') :
    ∃ c, getCarpincho (s.descriptor p).carpinchoPid s = some c ∧
      s' = { s.setCarpincho c.pid fun d => { d with tlbHits := c.tlbHits + 1 } with
             tlbHitsTotales := s.tlbHitsTotales + 1 } := by
  unfold tlbHit at h
  split at h
  · cases h
  · next c hc =>
    obtain ⟨hits, hhits, h⟩ := bind_eq_ok.1 h
    obtain ⟨totales, htotales, h⟩ := bind_eq_ok.1 h
    obtain rfl := (incrementar_spec _).post_of_eq hhits
    obtain rfl := (incrementar_spec _).post_of_eq htotales
    cases h
    exact ⟨c, hc, rfl⟩

theorem tlbMiss_cases (h : tlbMiss p s = .ok s') :
    ∃ c, getCarpincho (s.descriptor p).carpinchoPid s = some c ∧
      s' = { s.setCarpincho c.pid fun d => { d with tlbMiss := c.tlbMiss + 1 } with
             tlbMissTotales := s.tlbMissTotales + 1 } := by
  unfold tlbMiss at h
  split at h
  · cases h
  · next c hc =>
    obtain ⟨miss, hmiss, h⟩ := bind_eq_ok.1 h
    obtain ⟨totales, htotales, h⟩ := bind_eq_ok.1 h
    obtain rfl := (incrementar_spec _).post_of_eq hmiss
    obtain rfl := (incrementar_spec _).post_of_eq htotales
    cases h
    exact ⟨c, hc, rfl⟩

def sellar (entrada ts : ℕ) (l : List Tlb) : List Tlb :=
  l.map fun t => if t.entrada = entrada then { t with timestamp := ts } else t

theorem refrescarTlb_cases (h : refrescarTlb E p s = .ok s') :
    (E.config.algoritmoReemplazoTlb = .fifo ∧ s' = s) ∨
      (E.config.algoritmoReemplazoTlb = .lru ∧ ∃ t, getTlbItem p s = some t ∧
        s' = { s with tlbList := sellar t.entrada s.contadorTimestamp s.tlbList
                      contadorTimestamp := s.contadorTimestamp + 1 }) := by
  unfold refrescarTlb at h
  split at h
  · next hfifo =>
    cases h
    exact Or.inl ⟨hfifo, rfl⟩
  · next hlru =>
    split at h
    · cases h
    · next t ht =>
      obtain ⟨r, hr, h⟩ := bind_eq_ok.1 h
      obtain ⟨hts, hs⟩ := (obtenerTimeStamp_spec s).post_of_eq hr
      cases h
      refine Or.inr ⟨hlru, t, ht, ?_⟩
      rw [hs, hts]
      rfl

theorem paginaIsInTlb_refrescarTlb (h : refrescarTlb E p s = .ok s') :
    paginaIsInTlb p s' = paginaIsInTlb p s := by
  rcases refrescarTlb_cases h with ⟨-, rfl⟩ | ⟨-, t, -, rfl⟩
  · rfl
  · simp only [paginaIsInTlb, sellar, List.any_map]
    congr 1
    funext u
    simp only [Function.comp_apply]
    split <;> rfl

/-- Loading a page writes to the TLB, or takes the branch for a frame that has an entry. -/
theorem actualizarTlb_cases (h : actualizarTlb E p k s = .ok s') :
    ∃ tlb fifo ts desc ramas, s' = { s with
      tlbList := tlb, tlbFifoPointer := fifo, contadorTimestampTlb := ts, descriptor := desc,
      ramas := ramas } := by
  unfold actualizarTlb at h
  split at h
  · cases h
    exact ⟨_, _, _, _, _, rfl⟩
  · split at h
    · unfold actualizarTlbMarcoPresente at h
      split at h
      · cases h
      · obtain ⟨q, -, h⟩ := bind_eq_ok.1 h
        cases q with
        | none => cases h
        | some q =>
          cases h
          exact ⟨_, _, _, _, _, rfl⟩
    · obtain ⟨⟨saliente, s₁⟩, hsaliente, h⟩ := bind_eq_ok.1 h
      obtain ⟨l, fifo, -, -, rfl⟩ := proximaPaginaASacarTlb_cases hsaliente
      unfold cargarPaginaPaginaTlb at h
      dsimp only at h
      split at h
      · cases h
      · obtain ⟨⟨ts, s₂⟩, hts, h⟩ := bind_eq_ok.1 h
        obtain ⟨c, -, hts⟩ := bind_eq_ok.1 hts
        cases hts
        cases h
        exact ⟨_, _, _, _, _, rfl⟩

end Tlb

section Eleccion

def MenosUso (d d' : ℕ → Pagina) : Prop := ∀ q, d' q = { d q with bitDeUso := (d' q).bitDeUso }

theorem MenosUso.refl (d : ℕ → Pagina) : MenosUso d d := fun _ => rfl

theorem MenosUso.trans {d d' d'' : ℕ → Pagina} (h : MenosUso d d') (h' : MenosUso d' d'') :
    MenosUso d d'' := by
  intro q
  rw [h' q, h q]

theorem MenosUso.nombre {d d' : ℕ → Pagina} (h : MenosUso d d') (q : ℕ) :
    (d' q).nombre = (d q).nombre := by
  rw [h q]
  rfl

theorem pasada_cases (edit limpia : Bool) (ps : List ℕ) (j : ℕ) (s : Estado) :
    ∃ desc, (pasada edit limpia ps j s).2 = { s with descriptor := desc } ∧
      MenosUso s.descriptor desc := by
  induction ps generalizing j s with
  | nil => exact ⟨s.descriptor, rfl, .refl _⟩
  | cons q ps ih =>
    simp only [pasada]
    split
    · exact ⟨s.descriptor, rfl, .refl _⟩
    · cases limpia with
      | false => exact ih (j + 1) s
      | true =>
        obtain ⟨desc, heq, hsolo⟩ :=
          ih (j + 1) (s.setPagina q fun r => { r with bitDeUso := false })
        refine ⟨desc, heq, MenosUso.trans (fun r => ?_) hsolo⟩
        rcases eq_or_ne r q with rfl | hr
        · simp [setPagina]
        · simp [setPagina, Function.update_of_ne hr]

theorem pasadas_cases (ps : List ℕ) (j : ℕ) (passes : List (Bool × Bool)) (s : Estado) :
    ∃ desc, (pasadas ps j passes s).2 = { s with descriptor := desc } ∧
      MenosUso s.descriptor desc := by
  induction passes generalizing s with
  | nil => exact ⟨s.descriptor, rfl, .refl _⟩
  | cons pass passes ih =>
    obtain ⟨edit, limpia⟩ := pass
    obtain ⟨desc, heq, hsolo⟩ := pasada_cases edit limpia ps j s
    simp only [pasadas]
    split
    · next h =>
      rw [h] at heq
      exact ⟨desc, heq, hsolo⟩
    · next s₁ h =>
      rw [h] at heq
      obtain rfl : s₁ = { s with descriptor := desc } := heq
      obtain ⟨desc', heq', hsolo'⟩ := ih { s with descriptor := desc }
      exact ⟨desc', heq', hsolo.trans hsolo'⟩

def Carpincho.sinPuntero (c : Carpincho) : Carpincho := { c with algoritmStackPointer := 0 }

/-- The choice of a victim clears bits of use and moves a hand. -/
theorem elegirPaginaASwampear_cases (h : elegirPaginaASwampear E pid s = .ok (v, s')) :
    ∃ desc car ptr, s' = { s with
        descriptor := desc, carpinchosList := car, algoritmStackPointer := ptr } ∧
      MenosUso s.descriptor desc ∧
      car.map Carpincho.sinPuntero = s.carpinchosList.map Carpincho.sinPuntero := by
  obtain ⟨paginas, -, h⟩ := bind_eq_ok.1 h
  split at h
  · unfold getProximaASwampearByMClock at h
    split at h
    · cases h
    · next page resto _ =>
      split at h
      · cases h
      · next last _ =>
        obtain ⟨desc, heq, hsolo⟩ := pasadas_cases ((page :: resto).drop last) last cuatroPasadas s
        split at h
        · cases h
        · next s₁ hs₁ =>
          rw [hs₁] at heq
          obtain rfl : s₁ = { s with descriptor := desc } := heq
          cases h
          unfold avanzarPuntero
          dsimp only
          split
          · have hcar : ∀ posicion, (s.setCarpincho (s.descriptor page).carpinchoPid fun c =>
                { c with algoritmStackPointer := posicion }).carpinchosList.map
                  Carpincho.sinPuntero = s.carpinchosList.map Carpincho.sinPuntero :=
              fun _ => map_setCarpincho (fun _ => by rfl) _ s
            exact ⟨_, _, _, rfl, hsolo, hcar _⟩
          · exact ⟨_, _, _, rfl, hsolo, rfl⟩
  · unfold getProximaASwampearByLru at h
    split at h
    · cases h
    · cases h
      exact ⟨_, _, _, rfl, .refl _, rfl⟩

end Eleccion

section Desalojo

def sinMarco (marco : ℤ) (l : List Tlb) : List Tlb :=
  match l.find? fun t => t.marco = marco with
  | some t => l.map fun u => if u.entrada = t.entrada then u.vacia else u
  | none => l

theorem vaciarMarcoEnCache_cases (h : vaciarMarcoEnCache E k s = .ok s') :
    ∃ cache numero, s' = ({ s with cache := cache, tlbList := sinMarco k s.tlbList } :
      Estado).setMarco numero Marco.vacio := by
  unfold vaciarMarcoEnCache at h
  split at h
  · cases h
  · next instancia _ =>
    cases h
    refine ⟨fill s.cache (getMarcoPtr E k) E.config.tamanioPagina guion, instancia.marco, ?_⟩
    simp only [sinMarco, getTlbItemByMarcoNumber]
    cases s.tlbList.find? fun t => decide (t.marco = k) with
    | none => rfl
    | some t => rfl

theorem desalojarPagina_cases (h : desalojarPagina E v pid pagina s = .ok (k, s')) :
    ∃ cache mensajes marcos, s' = { s with
        cache := cache, mensajes := mensajes, marcosList := marcos
        tlbList := sinMarco k s.tlbList
        descriptor := Function.update s.descriptor v
          { s.descriptor v with bitPresencia := false, marco := 0 } } ∧
      (∃ m ∈ marcos, m.marco = k) ∧
      ∀ m ∈ marcos, m.marco = k → m.isFree = false ∧ m.pid = pid ∧ m.pagina = pagina := by
  have hguardar : ∃ mensajes, guardarEnSwamp E v s = { s with mensajes := mensajes } := by
    unfold guardarEnSwamp
    split
    · exact ⟨_, rfl⟩
    · exact ⟨_, rfl⟩
  obtain ⟨s₁, hvaciar, h⟩ := bind_eq_ok.1 h
  obtain ⟨mensajes, hmensajes⟩ := hguardar
  rw [hmensajes] at hvaciar h
  obtain ⟨cache, numero, rfl⟩ := vaciarMarcoEnCache_cases hvaciar
  dsimp only at h
  split at h
  · cases h
  · next instancia hinstancia =>
    obtain ⟨hmem, hnumero⟩ := getMarcoByMarcoNumber_some hinstancia
    cases h
    rw [← hnumero]
    refine ⟨cache, mensajes, _, rfl, ⟨_, mem_setMarco hmem rfl, rfl⟩, ?_⟩
    intro m hm heq
    obtain ⟨u, -, rfl⟩ := List.mem_map.1 hm
    split
    · exact ⟨rfl, rfl, rfl⟩
    · next hne =>
      rw [if_neg hne] at heq
      exact absurd heq hne

structure SoloMemoria (s s' : Estado) : Prop where
  carpinchos : s'.carpinchosList.map Carpincho.sinPuntero =
    s.carpinchosList.map Carpincho.sinPuntero
  contador : s'.contadorTimestamp = s.contadorTimestamp
  contadorTlb : s'.contadorTimestampTlb = s.contadorTimestampTlb
  hits : s'.tlbHitsTotales = s.tlbHitsTotales
  miss : s'.tlbMissTotales = s.tlbMissTotales
  fifo : s'.tlbFifoPointer = s.tlbFifoPointer

theorem SoloMemoria.refl (s : Estado) : SoloMemoria s s := ⟨rfl, rfl, rfl, rfl, rfl, rfl⟩

structure Desalojo (pid pagina marco : ℤ) (s s' : Estado) : Prop where
  tlb : s'.tlbList = sinMarco marco s.tlbList
  existe : ∃ m ∈ s'.marcosList, m.marco = marco
  ocupado : ∀ m ∈ s'.marcosList, m.marco = marco →
    m.isFree = false ∧ m.pid = pid ∧ m.pagina = pagina

theorem swampearPaginaWhenCreatePage_cases
    (h : swampearPaginaWhenCreatePage E pid pagina s = .ok (k, s')) :
    SoloMemoria s s' ∧ Desalojo pid pagina k s s' := by
  obtain ⟨⟨v, s₁⟩, helegir, h⟩ := bind_eq_ok.1 h
  obtain ⟨desc, car, ptr, rfl, -, hcar⟩ := elegirPaginaASwampear_cases helegir
  obtain ⟨cache, mensajes, marcos, rfl, hexiste, hocupado⟩ := desalojarPagina_cases h
  exact ⟨⟨hcar, rfl, rfl, rfl, rfl, rfl⟩, ⟨rfl, hexiste, hocupado⟩⟩

theorem escribirEnCache_cases (E : Entorno) (marco : ℤ) (buffer : List UInt8) (offset : ℕ)
    (s : Estado) :
    ∃ result cache,
      escribirEnCache E marco buffer offset s = (result, { s with cache := cache }) := by
  unfold escribirEnCache
  split
  · exact ⟨_, _, rfl⟩
  · exact ⟨_, _, rfl⟩

/-- A read of SWAmP writes to the memory, and answers -1 just when SWAmP refuses the page. -/
theorem lecturaSwamp_cases (E : Entorno) (pid pagina marco : ℤ) (s : Estado) :
    ∃ estado cache, lecturaSwamp E pid pagina marco s = (estado, { s with
        cache := cache, mensajes := s.mensajes ++ [.lectura pid pagina] }) ∧
      (estado = -1 ↔ E.leerSwamp s.mensajes pid pagina = none) := by
  unfold lecturaSwamp
  dsimp only
  cases hleer : E.leerSwamp s.mensajes pid pagina with
  | none => exact ⟨-1, s.cache, rfl, by simp⟩
  | some contenido =>
    obtain ⟨result, cache, heq⟩ := escribirEnCache_cases E marco contenido 0
      { s with mensajes := s.mensajes ++ [.lectura pid pagina] }
    refine ⟨0, cache, ?_, by simp⟩
    dsimp only
    rw [heq]

/-- A page fault evicts a page, unless the victim is not in memory; SWAmP may then refuse
the page that is brought in. -/
theorem swampearPagina_cases (h : swampearPagina E pid pagina s = .ok (k, s')) :
    SoloMemoria s s' ∧ ((k = -1 ∧ s'.tlbList = s.tlbList ∧ s'.marcosList = s.marcosList) ∨
      ∃ marco, (k = marco ∨ k = -1) ∧ Desalojo pid pagina marco s s') := by
  obtain ⟨⟨v, s₁⟩, helegir, h⟩ := bind_eq_ok.1 h
  obtain ⟨desc, car, ptr, rfl, -, hcar⟩ := elegirPaginaASwampear_cases helegir
  dsimp only at h
  split at h
  · obtain ⟨⟨marco, s₂⟩, hdesalojar, h⟩ := bind_eq_ok.1 h
    obtain ⟨cache, mensajes, marcos, rfl, hexiste, hocupado⟩ := desalojarPagina_cases hdesalojar
    obtain ⟨estado, cache', heq, -⟩ := lecturaSwamp_cases E pid pagina marco { s with
      cache := cache, mensajes := mensajes, marcosList := marcos, carpinchosList := car
      algoritmStackPointer := ptr, tlbList := sinMarco marco s.tlbList
      descriptor := Function.update desc v { desc v with bitPresencia := false, marco := 0 } }
    simp only [heq] at h
    cases h
    refine ⟨⟨hcar, rfl, rfl, rfl, rfl, rfl⟩, Or.inr ⟨marco, ?_, ⟨rfl, hexiste, hocupado⟩⟩⟩
    split
    · exact Or.inl rfl
    · exact Or.inr rfl
  · cases h
    exact ⟨⟨hcar, rfl, rfl, rfl, rfl, rfl⟩, Or.inl ⟨rfl, rfl, rfl⟩⟩

theorem marcoParaPaginaNueva_cases {beforeValue : Bool}
    (h : marcoParaPaginaNueva E beforeValue pid pagina s = .ok (k, s')) :
    SoloMemoria s s' ∧ (s' = s ∨ Desalojo pid pagina k s s') := by
  unfold marcoParaPaginaNueva at h
  split at h
  · split at h
    · cases h
    · cases h
      exact ⟨.refl _, Or.inl rfl⟩
  · obtain ⟨hsolo, hdesalojo⟩ := swampearPaginaWhenCreatePage_cases h
    exact ⟨hsolo, Or.inr hdesalojo⟩

end Desalojo

section Acceso

theorem marcarAcceso_cases {esEscritura : Bool} (h : marcarAcceso E esEscritura p s = .ok s') :
    ∃ desc ts, s' = { s with descriptor := desc, contadorTimestamp := ts } ∧
      ∀ q, (desc q).nombre = (s.descriptor q).nombre := by
  have hnombres := congrArg (fun t => t.2.2) (tablas_marcarAcceso h)
  unfold marcarAcceso at h
  split at h
  · cases h
    exact ⟨_, _, rfl, congrFun hnombres⟩
  · obtain ⟨⟨ts, s₁⟩, hts, h⟩ := bind_eq_ok.1 h
    obtain ⟨c, -, hts⟩ := bind_eq_ok.1 hts
    cases hts
    cases h
    exact ⟨_, _, rfl, congrFun hnombres⟩

theorem marcarCreacion_cases (h : marcarCreacion E p s = .ok s') :
    ∃ desc ts, s' = { s with descriptor := desc, contadorTimestamp := ts } ∧
      ∀ q, (desc q).nombre = (s.descriptor q).nombre := by
  have hnombres := congrArg (fun t => t.2.2) (tablas_marcarCreacion h)
  unfold marcarCreacion at h
  split at h
  · cases h
    exact ⟨_, _, rfl, congrFun hnombres⟩
  · obtain ⟨⟨ts, s₁⟩, hts, h⟩ := bind_eq_ok.1 h
    obtain ⟨c, -, hts⟩ := bind_eq_ok.1 hts
    cases hts
    cases h
    exact ⟨_, _, rfl, congrFun hnombres⟩

theorem nombre_update {d : ℕ → Pagina} {r : Pagina} (h : r.nombre = (d p).nombre) (q : ℕ) :
    (Function.update d p r q).nombre = (d q).nombre := by
  rcases eq_or_ne q p with rfl | hq
  · rw [Function.update_self, h]
  · rw [Function.update_of_ne hq]

/-- An entry of a page names the frame that holds it, and gives that frame at once. -/
theorem Huella.getMarcoDeTlb {V : ℤ → ℤ → Prop} {N : ℕ → ℤ × ℤ} (h : Huella V N s)
    (hpagina : (N p).2 ≠ 0) (hin : paginaIsInTlb p s = true)
    (obtenerMarco : ℕ → Estado → Except Falla (ℤ × Estado)) :
    ∃ m ∈ s.marcosList, esMarcoDe p s m = true ∧
      getMarcoDeTlb obtenerMarco p s = .ok (m.marco, s) := by
  obtain ⟨t, htlb, hmem, hpid, hpag⟩ := getTlbItem_some hin
  have hname : ((s.descriptor p).carpinchoPid, (s.descriptor p).pagina) = N p := h.nombres p
  have hne : t.marco ≠ -1 := by
    intro heq
    have hcero := (h.tablas.vacias t hmem heq).2
    rw [hpag, show (s.descriptor p).pagina = (N p).2 from congrArg Prod.snd hname] at hcero
    exact hpagina hcero
  obtain ⟨-, m, hm, hmarco, hmpid, hmpag⟩ := h.tablas.entradas t hmem hne
  obtain ⟨u, hu, hfind, hnumero⟩ : ∃ u ∈ s.marcosList,
      getMarcoByMarcoNumber t.marco s = some u ∧ u.marco = t.marco := by
    cases hfind : getMarcoByMarcoNumber t.marco s with
    | none => simpa [hmarco] using List.find?_eq_none.1 hfind m hm
    | some u => exact ⟨u, (getMarcoByMarcoNumber_some hfind).1, rfl,
        (getMarcoByMarcoNumber_some hfind).2⟩
  obtain rfl := h.tablas.marco_inj hm hu (hmarco.trans hnumero.symm)
  have hde : esMarcoDe p s m = true := decide_eq_true ⟨hmpid.trans hpid, hmpag.trans hpag⟩
  refine ⟨m, hm, hde, ?_⟩
  unfold Memoria.getMarcoDeTlb
  rw [if_pos hin, htlb]
  simp only [hfind, hde, if_true, hmarco]

theorem obtenerMarcoParaPagina_cases {V : ℤ → ℤ → Prop} {N : ℕ → ℤ × ℤ} {fuel : ℕ}
    (h : Huella V N s) (hpagina : (N p).2 ≠ 0)
    (hs : obtenerMarcoParaPagina E fuel p s = .ok (k, s')) :
    (paginaIsInTlb p s = true ∧ ∃ s₁, tlbHit p s = .ok s₁ ∧ refrescarTlb E p s₁ = .ok s') ∨
      (paginaIsInTlb p s = false ∧ ∃ s₁, obtenerMarcoSinTlb E p s = .ok (k, s₁) ∧
        actualizarTlb E p k s₁ = .ok s') := by
  cases fuel with
  | zero => cases hs
  | succ fuel =>
    unfold Memoria.obtenerMarcoParaPagina at hs
    split at hs
    · next hin =>
      obtain ⟨s₁, hhit, hs⟩ := bind_eq_ok.1 hs
      obtain ⟨⟨m, s₂⟩, hmarco, hs⟩ := bind_eq_ok.1 hs
      obtain ⟨s₃, hrefrescar, hok⟩ := bind_eq_ok.1 hs
      have hin₁ : paginaIsInTlb p s₁ = true := by
        rw [paginaIsInTlb_of_tablas (tablas_tlbHit hhit)]
        exact hin
      obtain ⟨m, -, -, hget⟩ := (h.of_tablas (tablas_tlbHit hhit)).getMarcoDeTlb hpagina hin₁
        (Memoria.obtenerMarcoParaPagina E fuel)
      rw [hget] at hmarco
      cases hmarco
      cases hok
      exact Or.inl ⟨hin, s₁, hhit, hrefrescar⟩
    · next hno =>
      obtain ⟨⟨m, s₁⟩, hmarco, hs⟩ := bind_eq_ok.1 hs
      obtain ⟨s₂, hactualizar, hok⟩ := bind_eq_ok.1 hs
      cases hok
      exact Or.inr ⟨Bool.eq_false_iff.2 hno, s₁, hmarco, hactualizar⟩

theorem traerPagina_cases {marco : Option ℤ} (h : traerPagina E p s = .ok (marco, s')) :
    ∃ s₁ k s₂ desc, (if paginaIsInTlb p s then refrescarTlb E p s else .ok s) = .ok s₁ ∧
      obtenerMarcoParaPagina E (s₁.tlbList.length + 1) p s₁ = .ok (k, s₂) ∧
      s' = { s₂ with descriptor := desc } ∧
      ∀ q, (desc q).nombre = (s₂.descriptor q).nombre := by
  obtain ⟨-, -, h⟩ := bind_eq_ok.1 h
  obtain ⟨s₁, hrefrescar, h⟩ := bind_eq_ok.1 h
  obtain ⟨⟨k, s₂⟩, hobtener, h⟩ := bind_eq_ok.1 h
  dsimp only at h
  split at h
  · cases h
    exact ⟨s₁, k, s₂, _, hrefrescar, hobtener, rfl, nombre_update rfl⟩
  · cases h
    refine ⟨s₁, k, s₂, _, hrefrescar, hobtener, rfl, fun q => ?_⟩
    refine (nombre_update ?_ q).trans (nombre_update ?_ q)
    · rfl
    · rfl

/-- A call of `leer_en_pagina` or of `escribir_en_pagina` on the page. -/
def Accede (E : Entorno) (p : ℕ) (s s' : Estado) : Prop :=
  (∃ tamanio offset r, leerEnPagina E p tamanio offset s = .ok (r, s')) ∨
    ∃ buffer offset r, escribirEnPagina E p buffer offset s = .ok (r, s')

/-- An access translates the page; what follows writes to the memory, and to the bits and
stamps of the page. -/
theorem Accede.traer (h : Accede E p s s') : ∃ marco s₁ cache desc ts,
    traerPagina E p s = .ok (marco, s₁) ∧
      s' = { s₁ with cache := cache, descriptor := desc, contadorTimestamp := ts } ∧
      ∀ q, (desc q).nombre = (s₁.descriptor q).nombre := by
  rcases h with ⟨tamanio, offset, r, h⟩ | ⟨buffer, offset, r, h⟩
  · obtain ⟨⟨marco, s₁⟩, htraer, h⟩ := bind_eq_ok.1 h
    cases marco with
    | none =>
      cases h
      exact ⟨none, _, _, _, _, htraer, rfl, fun _ => rfl⟩
    | some marco =>
      obtain ⟨-, -, h⟩ := bind_eq_ok.1 h
      obtain ⟨s₂, hmarcar, h⟩ := bind_eq_ok.1 h
      cases h
      obtain ⟨desc, ts, rfl, hnombres⟩ := marcarAcceso_cases hmarcar
      exact ⟨some marco, s₁, _, _, _, htraer, rfl, hnombres⟩
  · obtain ⟨⟨marco, s₁⟩, htraer, h⟩ := bind_eq_ok.1 h
    cases marco with
    | none =>
      cases h
      exact ⟨none, _, _, _, _, htraer, rfl, fun _ => rfl⟩
    | some marco =>
      obtain ⟨-, -, h⟩ := bind_eq_ok.1 h
      obtain ⟨result, cache, hcache⟩ := escribirEnCache_cases E marco buffer offset s₁
      simp only [hcache] at h
      obtain ⟨s₂, hmarcar, h⟩ := bind_eq_ok.1 h
      cases h
      obtain ⟨desc, ts, rfl, hnombres⟩ := marcarAcceso_cases hmarcar
      exact ⟨some marco, s₁, _, _, _, htraer, rfl, hnombres⟩

theorem buscarPagina_some (h : buscarPagina pid pagina s = .ok p) :
    ∃ c, getCarpincho pid s = some c ∧ p ∈ c.paginas ∧
      (s.descriptor p).nombre = (pid, pagina) := by
  unfold buscarPagina at h
  split at h
  · next q hq =>
    cases h
    unfold getPageByInts at hq
    split at hq
    · cases hq
    · next c hc =>
      obtain ⟨-, -, hq⟩ := bind_eq_ok.1 hq
      have hfind := Except.ok.inj hq
      have hde := List.find?_some hfind
      simp only [decide_eq_true_eq] at hde
      refine ⟨c, hc, List.mem_of_find?_eq_some hfind, ?_⟩
      rw [Pagina.nombre, hde.1, hde.2, (getCarpincho_pid hc).1]
  · cases h
  · cases h
  · cases h

end Acceso

end Carpinchos.Memoria
