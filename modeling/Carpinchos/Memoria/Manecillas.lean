import Carpinchos.Memoria.Cambios
import Carpinchos.Memoria.Cuadrante
import Carpinchos.Memoria.Libro
import Carpinchos.Memoria.Reloj

/-!
# The hands of M-CLOCK in a run

A hand stays where it was left while the pages that it goes over change. As long as no page
that is in the tables leaves its carpincho, and under DINAMICA SWAmP refuses no page, the pages
never become fewer, so `get_proxima_a_swampear_by_m_clock` always finds one from the hand on.
-/

namespace Carpinchos.Memoria

open Outcome Estado Runs Replacement

section Cuadrante

def Pagina.lugar (q : Pagina) : Lugar :=
  { nombre := q.nombre, presencia := q.bitPresencia, marco := q.marco }

def Estado.cuadrante (s : Estado) : Cuadrante where
  procesos := s.carpinchosList.map Carpincho.proceso
  marcos := s.marcosList
  lugar := fun p => (s.descriptor p).lugar
  puntero := s.algoritmStackPointer

variable {E : Entorno} {s s' : Estado} {pid : ℤ} {p : ℕ} {c : Carpincho}

theorem LibroNumerado.padron (h : LibroNumerado s) : s.cuadrante.Padron := by
  have hpagina : ∀ c ∈ s.cuadrante.procesos, ∃ d ∈ s.carpinchosList, d.proceso = c :=
    fun c hc => List.mem_map.1 hc
  have hnombre : ∀ d ∈ s.carpinchosList, ∀ (i : ℕ) p, d.paginas[i]? = some p →
      (s.descriptor p).nombre = (d.pid, ((i + 1 : ℕ) : ℤ)) := h.numeradas.numeros
  refine ⟨?_, ?_, ?_, ?_, ?_⟩
  · simp only [Estado.cuadrante, List.map_map]
    exact h.pids
  · intro c hc p hp
    obtain ⟨d, hd, rfl⟩ := hpagina c hc
    exact (h.paginas d hd p hp).2
  · intro c hc
    obtain ⟨d, hd, rfl⟩ := hpagina c hc
    rw [List.nodup_iff_getElem?_ne_getElem?]
    intro i j hij hj heq
    obtain ⟨p, hp⟩ : ∃ p, d.paginas[j]? = some p := ⟨_, List.getElem?_eq_getElem hj⟩
    have hi := (hnombre d hd i p (heq.trans hp)).symm.trans (hnombre d hd j p hp)
    have hnumero := congrArg Prod.snd hi
    dsimp only at hnumero
    omega
  · rintro p q ⟨c, hc, hp⟩ ⟨c', hc', hq⟩ heq
    obtain ⟨d, hd, rfl⟩ := hpagina c hc
    obtain ⟨d', hd', rfl⟩ := hpagina c' hc'
    obtain ⟨i, hi⟩ := List.mem_iff_getElem?.1 hp
    obtain ⟨j, hj⟩ := List.mem_iff_getElem?.1 hq
    have hnombres := (hnombre d hd i p hi).symm.trans (heq.trans (hnombre d' hd' j q hj))
    obtain ⟨hpid, hnumero⟩ := Prod.mk.inj hnombres
    obtain rfl := h.eq_of_pid hd hd' hpid
    obtain rfl : i = j := by omega
    exact Option.some.inj (hi.symm.trans hj)
  · rw [List.nodup_iff_getElem?_ne_getElem?]
    intro i j hij hj heq
    rw [List.length_map] at hj
    have hm := h.tablas.numeros j _ (List.getElem?_eq_getElem hj)
    have hm' := h.tablas.numeros i _ (List.getElem?_eq_getElem (hij.trans hj))
    rw [List.getElem?_map, List.getElem?_map, List.getElem?_eq_getElem hj,
      List.getElem?_eq_getElem (hij.trans hj)] at heq
    have higuales := Option.some.inj heq
    omega

theorem alojada_cuadrante (p : ℕ) (s : Estado) :
    s.cuadrante.alojada p = paginaIsInCache p s := by
  unfold Cuadrante.alojada paginaIsInCache
  congr 1
  funext m
  simp only [esMarcoDe, Estado.cuadrante, Marco.nombre, Pagina.lugar, Pagina.nombre, Prod.mk.injEq]

theorem proceso_cuadrante (pid : ℤ) (s : Estado) :
    s.cuadrante.proceso pid = (getCarpincho pid s).map Carpincho.proceso :=
  List.find?_map ..

theorem existe_cuadrante : s.cuadrante.existe p ↔ ∃ c ∈ s.carpinchosList, p ∈ c.paginas := by
  constructor
  · rintro ⟨c, hc, hp⟩
    obtain ⟨d, hd, rfl⟩ := List.mem_map.1 hc
    exact ⟨d, hd, hp⟩
  · rintro ⟨c, hc, hp⟩
    exact ⟨c.proceso, List.mem_map_of_mem hc, hp⟩

theorem paginasCandidatas_eq {paginas : List ℕ} (h : paginasCandidatas E pid s = .ok paginas) :
    paginas = s.cuadrante.candidatas E.config.tipoAsignacion pid ∧
      (E.config.tipoAsignacion = .fija → (getCarpincho pid s).isSome) := by
  unfold paginasCandidatas at h
  split at h
  · next hfija =>
    unfold getPagesInCacheByCarpinchoPid at h
    split at h
    · cases h
    · next c hc =>
      obtain ⟨-, -, h⟩ := bind_eq_ok.1 h
      cases h
      refine ⟨?_, fun _ => by rw [hc]; rfl⟩
      unfold Cuadrante.candidatas Cuadrante.grupo
      rw [hfija, proceso_cuadrante, hc]
      refine List.filter_congr fun q _ => (alojada_cuadrante q s).symm
  · next hdin =>
    obtain ⟨-, -, h⟩ := bind_eq_ok.1 h
    cases h
    refine ⟨?_, fun hfija => ?_⟩
    · unfold Cuadrante.candidatas Cuadrante.grupo
      rw [hdin]
      simp only [Estado.cuadrante, List.flatMap_map]
      rfl
    · rw [hdin] at hfija
      cases hfija

end Cuadrante

section Eleccion

variable {E : Entorno} {s s' : Estado} {pid : ℤ} {p v : ℕ}

theorem cuadrante_ponerUso (uso : ℕ → Bool) (s : Estado) :
    (s.ponerUso uso).cuadrante = s.cuadrante := rfl

theorem cuadrante_avanzarPuntero (pid : ℤ) (j total : ℕ) (s : Estado) :
    (avanzarPuntero E pid j total s).cuadrante =
      s.cuadrante.mover E.config.tipoAsignacion pid (if total ≤ j + 1 then 0 else j + 1) := by
  unfold avanzarPuntero
  dsimp only
  cases E.config.tipoAsignacion with
  | dinamica => rfl
  | fija =>
    simp only [Estado.cuadrante, setCarpincho, Cuadrante.mover, List.map_map]
    congr 1
    refine List.map_congr_left fun c _ => ?_
    simp only [Function.comp_apply]
    by_cases hpid : c.pid = pid
    · rw [if_pos hpid]
      exact (if_pos hpid).symm
    · rw [if_neg hpid]
      exact (if_neg hpid).symm

/-- The hand of a list of candidates is that of their carpincho, and it points at one. -/
theorem manecillaDe_lt (hr : s.cuadrante.Padron)
    (h : s.cuadrante.EnHora E.config.tipoAsignacion) {paginas : List ℕ}
    (hpaginas : paginasCandidatas E pid s = .ok paginas) (hne : paginas ≠ []) :
    manecillaDe E paginas s = some (s.cuadrante.manecilla E.config.tipoAsignacion pid) ∧
      s.cuadrante.manecilla E.config.tipoAsignacion pid < paginas.length := by
  obtain ⟨rfl, hfija⟩ := paginasCandidatas_eq hpaginas
  refine ⟨?_, ?_⟩
  · have hperm : (porMarco E (s.cuadrante.candidatas E.config.tipoAsignacion pid) s).Perm
        (s.cuadrante.candidatas E.config.tipoAsignacion pid) := porMarco_perm
    unfold manecillaDe
    cases horden : porMarco E (s.cuadrante.candidatas E.config.tipoAsignacion pid) s with
    | nil =>
      rw [horden] at hperm
      exact absurd hperm.nil_eq.symm hne
    | cons page resto =>
      have hpage : page ∈ s.cuadrante.candidatas E.config.tipoAsignacion pid := by
        rw [← hperm.mem_iff, horden]
        exact List.mem_cons_self
      have hgrupo := (Cuadrante.mem_candidatas.1 hpage).1
      simp only [List.head?_cons, Option.bind_some]
      unfold lastPointerPosition Cuadrante.manecilla
      cases htipo : E.config.tipoAsignacion with
      | dinamica => rfl
      | fija =>
        rw [htipo] at hgrupo hfija
        obtain ⟨c, hc⟩ := Option.isSome_iff_exists.1 (hfija rfl)
        have hpid : (s.descriptor page).carpinchoPid = pid := hr.pid_of_grupo hgrupo
        dsimp only
        rw [hpid, proceso_cuadrante, hc]
        rfl
  · have hpos := List.length_pos_iff.2 hne
    rcases h.manecillas pid with hcero | hlt
    · omega
    · exact hlt

/-- A hand that points at a candidate finds a victim among them. -/
theorem getProximaASwampearByMClock_ok {paginas : List ℕ} {last : ℕ}
    (hlast : manecillaDe E paginas s = some last) (hlt : last < paginas.length) :
    ∃ v s' page j, getProximaASwampearByMClock E paginas s = .ok (v, s') ∧ v ∈ paginas ∧
      page ∈ paginas ∧ s'.cuadrante = s.cuadrante.mover E.config.tipoAsignacion
        (s.descriptor page).carpinchoPid (if paginas.length ≤ j + 1 then 0 else j + 1) := by
  have hperm : (porMarco E paginas s).Perm paginas := porMarco_perm
  have hpasadas := pasadas_eq ((porMarco E paginas s).drop last) last cuatroPasadas s
    fun q => (s.descriptor q).bitDeUso
  rw [ponerUso_propio] at hpasadas
  unfold manecillaDe at hlast
  unfold getProximaASwampearByMClock
  unfold porMarco at hlast hpasadas hperm
  cases horden : ordenarPor E (fun p => (s.descriptor p).marco) paginas with
  | nil => simp [horden] at hlast
  | cons page resto =>
    rw [horden] at hlast hpasadas hperm
    have hpointer : lastPointerPosition E page s = some last := hlast
    have hdrop : (page :: resto).drop last ≠ [] := by
      rw [Ne, List.drop_eq_nil_iff, hperm.length_eq]
      omega
    have hsome : (search (fun q => (s.descriptor q).bitDeModificacion) ((page :: resto).drop last)
        last cuatroPasadas fun q => (s.descriptor q).bitDeUso).1.isSome := search_isSome hdrop rfl
    obtain ⟨⟨v, j⟩, hvictima⟩ := Option.isSome_iff_exists.1 hsome
    obtain ⟨hv, -⟩ := search_mem (Prod.ext hvictima rfl)
    simp only [hpointer]
    rw [hpasadas, hvictima]
    refine ⟨v, _, page, j, rfl, hperm.mem_iff.1 (List.mem_of_mem_drop hv),
      hperm.mem_iff.1 List.mem_cons_self, ?_⟩
    rw [cuadrante_avanzarPuntero, cuadrante_ponerUso, hperm.length_eq]

/-- The victim is a candidate, and the hand is left in range. -/
structure Elegida (tipo : TipoAsignacion) (pid : ℤ) (v : ℕ) (r r' : Cuadrante) : Prop where
  candidata : v ∈ r.candidatas tipo pid
  mano : ∃ posicion, r' = r.mover tipo pid posicion ∧
    (posicion = 0 ∨ posicion < (r.candidatas tipo pid).length)

theorem elegirPaginaASwampear_mclock (hmmu : E.config.algoritmoReemplazoMmu = .mClock)
    (hr : s.cuadrante.Padron) (h : s.cuadrante.EnHora E.config.tipoAsignacion) (pid : ℤ) :
    Spec (elegirPaginaASwampear E pid s)
      (fun r => Elegida E.config.tipoAsignacion pid r.1 s.cuadrante r.2.cuadrante)
      (· ≠ .sinRetorno) := by
  have hcandidatas : Spec (paginasCandidatas E pid s) (fun _ => True) (· ≠ .sinRetorno) := by
    unfold paginasCandidatas
    split
    · unfold getPagesInCacheByCarpinchoPid
      split
      · exact Falla.noConfusion
      · unfold paginasLegibles
        split
        · exact Falla.noConfusion
        · trivial
    · unfold getAllPagesInCache paginasLegibles
      dsimp only
      split
      · exact Falla.noConfusion
      · trivial
  refine hcandidatas.self.bind fun paginas hpaginas => ?_
  rw [hmmu]
  dsimp only
  rcases eq_or_ne paginas [] with rfl | hne
  · have hvacio : ordenarPor E (fun p => (s.descriptor p).marco) [] = [] :=
      (E.listSort_perm _ _).eq_nil
    unfold getProximaASwampearByMClock
    rw [hvacio]
    exact Falla.noConfusion
  · obtain ⟨hlast, hlt⟩ := manecillaDe_lt hr h hpaginas.1 hne
    obtain ⟨v, s', page, j, hok, hv, hpage, hmano⟩ := getProximaASwampearByMClock_ok hlast hlt
    obtain ⟨hcand, -⟩ := paginasCandidatas_eq hpaginas.1
    rw [hcand] at hv hpage hmano
    rw [hok]
    refine ⟨hv, if (s.cuadrante.candidatas E.config.tipoAsignacion pid).length ≤ j + 1 then 0
      else j + 1, ?_, ?_⟩
    · rw [hmano]
      unfold Cuadrante.mover
      cases htipo : E.config.tipoAsignacion with
      | dinamica => rfl
      | fija =>
        have hgrupo := (Cuadrante.mem_candidatas.1 hpage).1
        rw [htipo] at hgrupo
        have hpid : (s.descriptor page).carpinchoPid = pid := hr.pid_of_grupo hgrupo
        rw [hpid]
    · split
      · exact .inl rfl
      · exact .inr (by omega)

end Eleccion

section Quietud

variable {E : Entorno} {s s' : Estado} {pid : ℤ} {p : ℕ}

theorem cuadrante_congr
    (hprocesos : s'.carpinchosList.map Carpincho.proceso = s.carpinchosList.map Carpincho.proceso)
    (hmarcos : s'.marcosList = s.marcosList)
    (hlugar : ∀ q, (s'.descriptor q).lugar = (s.descriptor q).lugar)
    (hpuntero : s'.algoritmStackPointer = s.algoritmStackPointer) :
    s'.cuadrante = s.cuadrante := by
  unfold Estado.cuadrante
  rw [hprocesos, hmarcos, hpuntero]
  congr 1
  exact funext hlugar

def DejaManos (s : Estado) (x : Except Falla Estado) : Prop :=
  Spec x (fun s' => s'.cuadrante = s.cuadrante) (· ≠ .sinRetorno)

theorem incrementar_manos (x : ℕ) :
    Spec (incrementar x) (fun _ => True) (· ≠ .sinRetorno) := by
  refine (incrementar_spec x).mono (fun _ _ => trivial) ?_
  rintro e rfl
  exact Falla.noConfusion

theorem obtenerTimeStamp_manos (s : Estado) :
    Spec (obtenerTimeStamp s) (fun r => r.2.cuadrante = s.cuadrante) (· ≠ .sinRetorno) :=
  (incrementar_manos s.contadorTimestamp).bind fun _ _ => rfl

theorem obtenerTimeStampTLB_manos (s : Estado) :
    Spec (obtenerTimeStampTLB s) (fun r => r.2.cuadrante = s.cuadrante) (· ≠ .sinRetorno) :=
  (incrementar_manos s.contadorTimestampTlb).bind fun _ _ => rfl

theorem tlbHit_manos (p : ℕ) (s : Estado) : DejaManos s (tlbHit p s) := by
  unfold tlbHit
  split
  · exact Falla.noConfusion
  · next c _ =>
    refine (incrementar_manos _).bind fun hits _ => ?_
    refine (incrementar_manos _).bind fun totales _ => ?_
    exact cuadrante_congr (map_setCarpincho (fun _ => by rfl) c.pid s) rfl (fun _ => rfl) rfl

theorem tlbMiss_manos (p : ℕ) (s : Estado) : DejaManos s (tlbMiss p s) := by
  unfold tlbMiss
  split
  · exact Falla.noConfusion
  · next c _ =>
    refine (incrementar_manos _).bind fun miss _ => ?_
    refine (incrementar_manos _).bind fun totales _ => ?_
    exact cuadrante_congr (map_setCarpincho (fun _ => by rfl) c.pid s) rfl (fun _ => rfl) rfl

theorem refrescarTlb_manos (p : ℕ) (s : Estado) : DejaManos s (refrescarTlb E p s) := by
  unfold refrescarTlb
  split
  · exact rfl
  · split
    · exact Falla.noConfusion
    · exact (obtenerTimeStamp_manos s).bind fun _ hr => hr

theorem cuadrante_setPagina (f : Pagina → Pagina) (hf : ∀ q, (f q).lugar = q.lugar) (p : ℕ)
    (s : Estado) : (s.setPagina p f).cuadrante = s.cuadrante := by
  refine cuadrante_congr rfl rfl (fun q => ?_) rfl
  rcases eq_or_ne q p with rfl | hq
  · simp only [setPagina, Function.update_self, hf]
  · simp only [setPagina, Function.update_of_ne hq]

theorem marcarAcceso_manos (esEscritura : Bool) (p : ℕ) (s : Estado) :
    DejaManos s (marcarAcceso E esEscritura p s) := by
  unfold marcarAcceso
  split
  · exact cuadrante_setPagina _ (fun _ => by rfl) p s
  · refine (obtenerTimeStamp_manos s).bind fun r hr => ?_
    exact (cuadrante_setPagina _ (fun _ => by rfl) p r.2).trans hr

theorem marcarCreacion_manos (p : ℕ) (s : Estado) : DejaManos s (marcarCreacion E p s) := by
  unfold marcarCreacion
  split
  · exact cuadrante_setPagina _ (fun _ => by rfl) p s
  · refine (obtenerTimeStamp_manos s).bind fun r hr => ?_
    exact (cuadrante_setPagina _ (fun _ => by rfl) p r.2).trans hr

theorem paginasLegibles_manos (ps : List ℕ) (s : Estado) :
    Spec (paginasLegibles ps s) (fun _ => True) (· ≠ .sinRetorno) := by
  unfold paginasLegibles
  split
  · exact Falla.noConfusion
  · exact trivial

theorem proximaPaginaASacarTlb_manos (s : Estado) :
    Spec (proximaPaginaASacarTlb E s) (fun r => r.2.cuadrante = s.cuadrante)
      (· ≠ .sinRetorno) := by
  unfold proximaPaginaASacarTlb
  split
  · unfold proximaPaginaASacarTlbByLru
    split
    · split
      · exact Falla.noConfusion
      · exact rfl
    · dsimp only
      split
      · exact Falla.noConfusion
      · exact rfl
  · unfold proximaPaginaASacarTlbByFifo
    split
    · split
      · exact Falla.noConfusion
      · exact rfl
    · dsimp only
      split
      · exact Falla.noConfusion
      · exact rfl

/-- The branch for a frame that has an entry already is not taken. -/
theorem actualizarTlb_manos {marco : ℤ} (h : marco ≠ -1 → isMarcoInTlb marco s = false) :
    DejaManos s (actualizarTlb E p marco s) := by
  unfold actualizarTlb
  split
  · exact rfl
  · next hmarco =>
    rw [if_neg (by rw [h hmarco]; exact Bool.false_ne_true)]
    refine (proximaPaginaASacarTlb_manos s).bind fun r hr => ?_
    unfold cargarPaginaPaginaTlb
    dsimp only
    split
    · exact Falla.noConfusion
    · exact (obtenerTimeStampTLB_manos _).bind fun r' hr' => hr'.trans hr

theorem isMarcoInTlb_of_libre {marco : ℤ}
    (h : ∀ t ∈ s.tlbList, t.marco ≠ -1 → t.marco ≠ marco) (hmarco : marco ≠ -1) :
    isMarcoInTlb marco s = false := by
  rw [isMarcoInTlb, List.any_eq_false]
  intro t ht heq
  have hde : t.marco = marco := of_decide_eq_true heq
  exact h t ht (hde ▸ hmarco) hde

end Quietud

section Desalojo

variable {E : Entorno} {V : ℤ → ℤ → Prop} {N : ℕ → ℤ × ℤ} {s s' : Estado} {pid pagina : ℤ} {v : ℕ}

theorem cuadrante_setPagina_lugar (p : ℕ) (f : Pagina → Pagina) (s : Estado) :
    (s.setPagina p f).cuadrante = { s.cuadrante with
      lugar := Function.update s.cuadrante.lugar p (f (s.descriptor p)).lugar } := by
  unfold Estado.cuadrante
  congr 1
  funext q
  rcases eq_or_ne q p with rfl | hq
  · simp only [setPagina, Function.update_self]
  · simp only [setPagina, Function.update_of_ne hq]

theorem cuadrante_guardarEnSwamp (v : ℕ) (s : Estado) :
    (guardarEnSwamp E v s).cuadrante = s.cuadrante := by
  unfold guardarEnSwamp
  split <;> rfl

theorem vaciarMarcoEnCache_cuadrante (h : Huella V N s) (marco : ℤ) :
    Spec (vaciarMarcoEnCache E marco s)
      (fun s' => 0 ≤ marco ∧ s'.descriptor = s.descriptor ∧ s'.cuadrante = { s.cuadrante with
        marcos := s.marcosList.map fun m => if m.marco = marco then m.vacio else m })
      (· ≠ .sinRetorno) := by
  unfold vaciarMarcoEnCache
  split
  · exact Falla.noConfusion
  · next instancia hinstancia =>
    have hmarco : 0 ≤ marco ∧ instancia.marco = marco := by
      unfold listGet at hinstancia
      split at hinstancia
      · next hcero => exact ⟨hcero, by rw [h.tablas.numeros _ _ hinstancia]; omega⟩
      · cases hinstancia
    rw [hmarco.2]
    refine ⟨hmarco.1, ?_, ?_⟩
    · split <;> rfl
    · split <;> rfl

theorem desalojarPagina_cuadrante (h : Huella V N s) (v : ℕ) (pid pagina : ℤ) :
    Spec (desalojarPagina E v pid pagina s)
      (fun r => r.1 ≠ -1 ∧ r.1 = (s.cuadrante.lugar v).marco ∧
        r.2.cuadrante = (s.cuadrante.vaciar v r.1).ocupar r.1 (pid, pagina))
      (· ≠ .sinRetorno) := by
  have hdesc : (guardarEnSwamp E v s).descriptor = s.descriptor := by
    unfold guardarEnSwamp
    split <;> rfl
  have hmarcos : (guardarEnSwamp E v s).marcosList = s.marcosList := by
    unfold guardarEnSwamp
    split <;> rfl
  have h₀ := h.of_tablas (tablas_guardarEnSwamp (E := E) v s)
  refine (vaciarMarcoEnCache_cuadrante h₀ _).bind fun s₁ hs₁ => ?_
  obtain ⟨hcero, hdesc₁, hcuadrante⟩ := hs₁
  rw [cuadrante_guardarEnSwamp, hmarcos] at hcuadrante
  rw [hdesc] at hcero hcuadrante hdesc₁ ⊢
  dsimp only
  split
  · exact Falla.noConfusion
  · next instancia hinstancia =>
    obtain ⟨-, hnumero⟩ := getMarcoByMarcoNumber_some hinstancia
    rw [hnumero]
    refine ⟨?_, rfl, ?_⟩
    · omega
    · rw [cuadrante_setPagina_lugar]
      have hmarco : (s₁.setMarco (s.descriptor v).marco (Marco.ocupado pid pagina)).cuadrante =
          { s₁.cuadrante with marcos := s₁.cuadrante.marcos.map fun m =>
              if m.marco = (s.descriptor v).marco then m.ocupado pid pagina else m } := rfl
      have hlugar : (s₁.setMarco (s.descriptor v).marco (Marco.ocupado pid pagina)).descriptor =
          s.descriptor := hdesc₁
      rw [hmarco, hcuadrante, hlugar]
      rfl

/-- Once the number is written in the descriptor of the page, no hand points past the
candidates. -/
def Ubica (tipo : TipoAsignacion) (p : ℕ) (k : ℤ) (s : Estado) : Prop :=
  ∀ b, (k ≠ -1 → b = true) → (s.cuadrante.ubicar p k b).EnHora tipo

/-- The replacement is M-CLOCK, and under DINAMICA SWAmP refuses no page. -/
structure Repone (E : Entorno) : Prop where
  mmu : E.config.algoritmoReemplazoMmu = .mClock
  leer : E.config.tipoAsignacion = .dinamica →
    ∀ historia pid pagina, (E.leerSwamp historia pid pagina).isSome

structure Escogida (E : Entorno) (V : ℤ → ℤ → Prop) (N : ℕ → ℤ × ℤ) (pid : ℤ) (s : Estado) (v : ℕ)
    (s' : Estado) : Prop where
  huella : Huella V N s'
  padron : s'.cuadrante.Padron
  enHora : s'.cuadrante.EnHora E.config.tipoAsignacion
  candidata : v ∈ s'.cuadrante.candidatas E.config.tipoAsignacion pid
  lugar : s'.cuadrante.lugar = s.cuadrante.lugar
  marcos : s'.cuadrante.marcos = s.cuadrante.marcos
  grupo : ∀ pid', s'.cuadrante.grupo E.config.tipoAsignacion pid' =
    s.cuadrante.grupo E.config.tipoAsignacion pid'
  duenios : s'.cuadrante.procesos.map (fun c => (c.pid, c.paginas)) =
    s.cuadrante.procesos.map fun c => (c.pid, c.paginas)

theorem elegirPaginaASwampear_escogida (hE : Repone E) (hr : s.cuadrante.Padron)
    (he : s.cuadrante.EnHora E.config.tipoAsignacion) (hh : Huella V N s) (pid : ℤ) :
    Spec (elegirPaginaASwampear E pid s) (fun r => Escogida E V N pid s r.1 r.2)
      (· ≠ .sinRetorno) := by
  refine (elegirPaginaASwampear_mclock hE.mmu hr he pid).self.mono ?_ fun _ he => he
  rintro ⟨v, s'⟩ ⟨hok, hv, posicion, hmano, hpos⟩
  dsimp only at hv hmano
  refine ⟨hh.of_tablas (tablas_elegirPaginaASwampear hok), ?_, ?_, ?_, ?_, ?_, fun pid' => ?_, ?_⟩
  · rw [hmano]
    exact Cuadrante.padron_mover hr
  · rw [hmano]
    exact he.mover hpos
  · rw [hmano, Cuadrante.candidatas_mover]
    exact hv
  · rw [hmano, Cuadrante.lugar_mover]
  · rw [hmano, Cuadrante.marcos_mover]
  · rw [hmano, Cuadrante.grupo_mover]
  · rw [hmano, Cuadrante.duenios_mover]

theorem Escogida.enCache {v : ℕ} (h : Escogida E V N pid s v s') : paginaIsInCache v s' = true := by
  rw [← alojada_cuadrante]
  obtain ⟨hgrupo, hpresente⟩ := Cuadrante.mem_candidatas.1 h.candidata
  exact (h.enHora.ubicadas v (Cuadrante.existe_of_grupo hgrupo)).alojada hpresente

/-- A page that is not in memory takes the frame of a candidate. -/
theorem swampearPagina_ubica (hE : Repone E) (hr : s.cuadrante.Padron)
    (he : s.cuadrante.EnHora E.config.tipoAsignacion) (hh : Huella V N s) {p : ℕ}
    (hp : s.cuadrante.existe p) (hno : paginaIsInCache p s = false) :
    Spec (swampearPagina E (s.descriptor p).carpinchoPid (s.descriptor p).pagina s)
      (fun r => Ubica E.config.tipoAsignacion p r.1 r.2) (· ≠ .sinRetorno) := by
  refine (elegirPaginaASwampear_escogida hE hr he hh _).bind fun r hv => ?_
  obtain ⟨v, s₁⟩ := r
  dsimp only at hv ⊢
  rw [if_pos hv.enCache]
  refine (desalojarPagina_cuadrante hv.huella v _ _).bind fun r hr₂ => ?_
  obtain ⟨k, s₂⟩ := r
  obtain ⟨hk, hmarco, hcuadrante⟩ := hr₂
  dsimp only at hk hmarco hcuadrante ⊢
  obtain ⟨estado, cache, hlectura, hrechazo⟩ := lecturaSwamp_cases E (s.descriptor p).carpinchoPid
    (s.descriptor p).pagina k s₂
  rw [hlectura]
  dsimp only
  intro b hb
  have hpgrupo : p ∈ s₁.cuadrante.grupo E.config.tipoAsignacion (s.descriptor p).carpinchoPid := by
    rw [hv.grupo]
    exact (hr.mem_grupo_iff hp).2 (.inr rfl)
  have hafuera : s₁.cuadrante.alojada p = false := by
    rw [← hno, ← alojada_cuadrante, Cuadrante.alojada, Cuadrante.alojada, hv.lugar, hv.marcos]
  have hanotado : Cuadrante.Anotado E.config.tipoAsignacion k
      (if estado ≠ -1 then k else -1) b := by
    split at hb
    · next hestado =>
      rw [if_pos hestado]
      exact .inl ⟨rfl, hb hk⟩
    · next hestado =>
      rw [if_neg hestado]
      refine .inr ⟨?_, rfl⟩
      cases htipo : E.config.tipoAsignacion with
      | fija => rfl
      | dinamica =>
        have hsome := hE.leer htipo s₂.mensajes (s.descriptor p).carpinchoPid
          (s.descriptor p).pagina
        rw [hrechazo.1 (not_not.1 hestado)] at hsome
        cases hsome
  obtain rfl := hmarco
  have henhora := hv.enHora.desalojar hv.padron hv.candidata hk hpgrupo hafuera hanotado
  have hnombre : (s₁.cuadrante.lugar p).nombre = (s.cuadrante.lugar p).nombre := by rw [hv.lugar]
  rw [Cuadrante.alojar, Cuadrante.nombre_vaciar, hnombre] at henhora
  have hfinal : ({ s₂ with cache := cache, mensajes := s₂.mensajes ++
      [.lectura (s.descriptor p).carpinchoPid (s.descriptor p).pagina] } : Estado).cuadrante =
      s₂.cuadrante := rfl
  rw [hfinal, hcuadrante]
  exact henhora

end Desalojo

section Traduccion

variable {E : Entorno} {V : ℤ → ℤ → Prop} {N : ℕ → ℤ × ℤ} {s s' : Estado} {p : ℕ}

theorem ubica_marco (he : s.cuadrante.EnHora E.config.tipoAsignacion) (hh : Huella V N s)
    (hp : s.cuadrante.existe p) {m : Marco} (hm : m ∈ s.marcosList) (hde : esMarcoDe p s m = true)
    (heq : s'.cuadrante = s.cuadrante) : Ubica E.config.tipoAsignacion p m.marco s' := by
  intro b hb
  obtain ⟨i, hi⟩ := List.mem_iff_getElem?.1 hm
  have hnumero := hh.tablas.numeros i m hi
  obtain ⟨hpid, hpagina⟩ := of_decide_eq_true hde
  rw [hb (by omega), heq]
  exact he.ubicar hp hm (Prod.ext hpid hpagina)

theorem obtenerMarcoSinTlb_ubica (hE : Repone E) (hr : s.cuadrante.Padron)
    (he : s.cuadrante.EnHora E.config.tipoAsignacion) (hh : Huella V N s)
    (hp : s.cuadrante.existe p) :
    Spec (obtenerMarcoSinTlb E p s) (fun r => Ubica E.config.tipoAsignacion p r.1 r.2)
      (· ≠ .sinRetorno) := by
  unfold obtenerMarcoSinTlb
  split
  · next hen =>
    refine (tlbMiss_manos p s).self.bind fun s₁ hs₁ => ?_
    obtain ⟨u, hu, hde, hmarco⟩ : ∃ u ∈ s.marcosList, esMarcoDe p s u = true ∧
        obtenerMarcoDeCache p s₁ = u.marco := by
      obtain ⟨c, -, rfl⟩ := tlbMiss_cases hs₁.1
      obtain ⟨u, hu⟩ := Option.isSome_iff_exists.1 (List.find?_isSome.2 (List.any_eq_true.1 hen))
      refine ⟨u, List.mem_of_find?_eq_some hu, List.find?_some hu, ?_⟩
      have hu₁ : s.marcosList.find? (esMarcoDe p { s.setCarpincho c.pid fun d =>
          { d with tlbMiss := c.tlbMiss + 1 } with tlbMissTotales := s.tlbMissTotales + 1 }) =
          some u := hu
      unfold obtenerMarcoDeCache
      dsimp only [setCarpincho] at hu₁ ⊢
      rw [hu₁]
    rw [spec_ok, hmarco]
    exact ubica_marco he hh hp hu hde hs₁.2
  · next hno =>
    refine (tlbHit_manos p s).self.bind fun s₁ hs₁ => ?_
    obtain ⟨hok, heq⟩ := hs₁
    have hdesc : s₁.descriptor = s.descriptor := by
      obtain ⟨c, -, rfl⟩ := tlbHit_cases hok
      rfl
    have hafuera : paginaIsInCache p s₁ = false := by
      rw [← alojada_cuadrante, heq, alojada_cuadrante]
      exact Bool.eq_false_iff.2 hno
    exact swampearPagina_ubica hE (heq ▸ hr) (heq ▸ he) (hh.of_tablas (tablas_tlbHit hok))
      (heq ▸ hp) hafuera

theorem obtenerMarcoParaPagina_ubica (hE : Repone E) (hr : s.cuadrante.Padron)
    (he : s.cuadrante.EnHora E.config.tipoAsignacion) (hh : Huella V N s)
    (hV : V (N p).1 (N p).2) (hpagina : (N p).2 ≠ 0) (hp : s.cuadrante.existe p) (fuel : ℕ) :
    Spec (obtenerMarcoParaPagina E (fuel + 1) p s)
      (fun r => Ubica E.config.tipoAsignacion p r.1 r.2) (· ≠ .sinRetorno) := by
  unfold obtenerMarcoParaPagina
  split
  · next hin =>
    refine (tlbHit_manos p s).self.bind fun s₁ hs₁ => ?_
    obtain ⟨hok, heq⟩ := hs₁
    have hh₁ := hh.of_tablas (tablas_tlbHit hok)
    have hin₁ : paginaIsInTlb p s₁ = true := by
      rw [paginaIsInTlb_of_tablas (tablas_tlbHit hok)]
      exact hin
    obtain ⟨m, hm, hde, hget⟩ := hh₁.getMarcoDeTlb hpagina hin₁ (obtenerMarcoParaPagina E fuel)
    rw [hget, ok_bind]
    refine (refrescarTlb_manos p s₁).bind fun s₂ hs₂ => ?_
    exact ubica_marco (heq ▸ he) hh₁ (heq ▸ hp) hm hde hs₂
  · next hno =>
    have hmarco := (obtenerMarcoSinTlb_ubica (p := p) hE hr he hh hp).self
    refine hmarco.bind fun r hr₁ => ?_
    obtain ⟨k, s₁⟩ := r
    obtain ⟨hok, hubica⟩ := hr₁
    obtain ⟨-, htomado⟩ := hh.obtenerMarcoSinTlb hV (Bool.eq_false_iff.2 hno) hok
    have hlibre : k ≠ -1 → isMarcoInTlb k s₁ = false := fun hk =>
      isMarcoInTlb_of_libre (htomado hk).libre hk
    refine (actualizarTlb_manos hlibre).bind fun s₂ hs₂ => ?_
    intro b hb
    rw [hs₂]
    exact hubica b hb

theorem traerPagina_enHora (hE : Repone E) (hr : s.cuadrante.Padron)
    (he : s.cuadrante.EnHora E.config.tipoAsignacion) (hh : Huella V N s)
    (hV : V (N p).1 (N p).2) (hpagina : (N p).2 ≠ 0) (hp : s.cuadrante.existe p) :
    Spec (traerPagina E p s) (fun r => r.2.cuadrante.EnHora E.config.tipoAsignacion)
      (· ≠ .sinRetorno) := by
  have hrefrescada : Spec (if paginaIsInTlb p s then refrescarTlb E p s else .ok s)
      (fun s' => s'.cuadrante = s.cuadrante ∧ Huella V N s') (· ≠ .sinRetorno) := by
    split
    · refine (refrescarTlb_manos p s).self.mono ?_ fun _ he => he
      exact fun s' hs' => ⟨hs'.2, hh.refrescarTlb hs'.1⟩
    · exact ⟨rfl, hh⟩
  refine (paginasLegibles_manos [p] s).bind fun _ _ => ?_
  refine hrefrescada.bind fun s₁ hs₁ => ?_
  obtain ⟨heq, hh₁⟩ := hs₁
  refine (obtenerMarcoParaPagina_ubica hE (heq ▸ hr) (heq ▸ he) hh₁ hV hpagina (heq ▸ hp) _).bind
    fun r hubica => ?_
  obtain ⟨k, s₂⟩ := r
  dsimp only at hubica ⊢
  split
  · next hk =>
    have h := hubica (s₂.descriptor p).bitPresencia fun hne => absurd hk hne
    rw [spec_ok, cuadrante_setPagina_lugar]
    exact h
  · next hk =>
    have h := hubica true fun _ => rfl
    rw [spec_ok, cuadrante_setPagina_lugar, cuadrante_setPagina_lugar]
    simp only [setPagina, Function.update_self, Function.update_idem]
    exact h

end Traduccion

end Carpinchos.Memoria
