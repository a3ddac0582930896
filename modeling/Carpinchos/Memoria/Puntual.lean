import Carpinchos.Memoria.Huerfanos
import Carpinchos.Memoria.Manecillas

/-!
# Every call finds its victim

The calls of the module, one by one: each leaves every hand at a candidate, if there is one,
and none of them falls off the end of a function.
-/

namespace Carpinchos.Memoria

open Outcome Estado Runs

/-- A ledger in order whose hands all point at a candidate or at 0. -/
structure Puntual (E : Entorno) (s : Estado) : Prop extends LibroNumerado s where
  enHora : s.cuadrante.EnHora E.config.tipoAsignacion

variable {E : Entorno} {s s' : Estado} {pid : ℤ} {p : ℕ}

section Accesos

theorem Puntual.traerPagina (h : Puntual E s) (hE : Repone E) {c : Carpincho}
    (hc : c ∈ s.carpinchosList) (hp : p ∈ c.paginas) :
    Spec (traerPagina E p s) (fun r => r.2.cuadrante.EnHora E.config.tipoAsignacion)
      (· ≠ .sinRetorno) := by
  obtain ⟨hV, hnumero⟩ := h.paginaDe hc hp
  exact traerPagina_enHora hE h.padron h.enHora h.huella hV hnumero
    (existe_cuadrante.2 ⟨c, hc, hp⟩)

theorem accesoEnCache_manos (offset tamanio : ℕ) :
    Spec (accesoEnCache E offset tamanio) (fun _ => True) (· ≠ .sinRetorno) := by
  unfold accesoEnCache
  split
  · exact trivial
  · exact Falla.noConfusion

theorem Puntual.leerEnPagina (h : Puntual E s) (hE : Repone E) {c : Carpincho}
    (hc : c ∈ s.carpinchosList) (hp : p ∈ c.paginas) (tamanio offset : ℕ) :
    Spec (leerEnPagina E p tamanio offset s) (fun r => Puntual E r.2) (· ≠ .sinRetorno) := by
  have hmanos : Spec (Memoria.leerEnPagina E p tamanio offset s)
      (fun r => r.2.cuadrante.EnHora E.config.tipoAsignacion) (· ≠ .sinRetorno) := by
    refine (h.traerPagina hE hc hp).bind fun r hr => ?_
    obtain ⟨marco, s₁⟩ := r
    cases marco with
    | none => exact hr
    | some marco =>
      refine (accesoEnCache_manos offset tamanio).bind fun _ _ => ?_
      refine (marcarAcceso_manos false p s₁).bind fun s₂ hs₂ => ?_
      rw [spec_ok, hs₂]
      exact hr
  refine hmanos.self.mono ?_ fun _ he => he
  rintro ⟨contenido, s'⟩ ⟨hok, henhora⟩
  exact ⟨h.toLibroNumerado.leerEnPagina hc hp hok, henhora⟩

theorem Puntual.escribirEnPagina (h : Puntual E s) (hE : Repone E) {c : Carpincho}
    (hc : c ∈ s.carpinchosList) (hp : p ∈ c.paginas) (buffer : List UInt8) (offset : ℕ) :
    Spec (escribirEnPagina E p buffer offset s) (fun r => Puntual E r.2) (· ≠ .sinRetorno) := by
  have hmanos : Spec (Memoria.escribirEnPagina E p buffer offset s)
      (fun r => r.2.cuadrante.EnHora E.config.tipoAsignacion) (· ≠ .sinRetorno) := by
    refine (h.traerPagina hE hc hp).bind fun r hr => ?_
    obtain ⟨marco, s₁⟩ := r
    cases marco with
    | none => exact hr
    | some marco =>
      refine (accesoEnCache_manos offset buffer.length).bind fun _ _ => ?_
      obtain ⟨result, cache, hcache⟩ := escribirEnCache_cases E marco buffer offset s₁
      dsimp only
      rw [hcache]
      refine (marcarAcceso_manos true p _).bind fun s₂ hs₂ => ?_
      rw [spec_ok, hs₂]
      exact hr
  refine hmanos.self.mono ?_ fun _ he => he
  rintro ⟨result, s'⟩ ⟨hok, henhora⟩
  exact ⟨h.toLibroNumerado.escribirEnPagina hc hp hok, henhora⟩

/-- A search for a page that does not fall off its end. -/
def Busca (pagina : ℕ → Estado → Except Falla ℕ) : Prop :=
  ∀ n s, Spec (pagina n s) (fun p => ∃ c ∈ s.carpinchosList, p ∈ c.paginas) (· ≠ .sinRetorno)

theorem DaPaginas.busca {pagina : ℕ → Estado → Except Falla ℕ} (h : DaPaginas pagina)
    (hno : ∀ n s, Spec (pagina n s) (fun _ => True) (· ≠ .sinRetorno)) : Busca pagina :=
  fun n s => (hno n s).self.mono (fun p hp => h n s p hp.1) fun _ he => he

theorem carpinchoDe_manos (pid : ℤ) (s : Estado) :
    Spec (carpinchoDe pid s) (fun c => c ∈ s.carpinchosList ∧ c.pid = pid) (· ≠ .sinRetorno) := by
  unfold carpinchoDe
  split
  · next c hc => exact (getCarpincho_pid hc).symm
  · exact Falla.noConfusion

theorem paginaPorNumero_busca (pid : ℤ) : Busca (paginaPorNumero pid) := by
  refine (paginaPorNumero_daPaginas pid).busca fun n s => ?_
  refine (carpinchoDe_manos pid s).bind fun c _ => ?_
  have hget : Spec (getPage c (aInt (n + 1)) s) (fun _ => True) (· ≠ .sinRetorno) :=
    (paginasLegibles_manos c.paginas s).bind fun _ _ => trivial
  refine hget.bind fun o _ => ?_
  cases o with
  | none => exact Falla.noConfusion
  | some p => exact trivial

theorem paginaPorIndice_busca (pid : ℤ) : Busca (paginaPorIndice pid) := by
  refine (paginaPorIndice_daPaginas pid).busca fun n s => ?_
  refine (carpinchoDe_manos pid s).bind fun c _ => ?_
  split
  · exact trivial
  · exact Falla.noConfusion

theorem Puntual.escribirAcciones {pagina : ℕ → Estado → Except Falla ℕ} (hE : Repone E)
    (hpag : Busca pagina) {valor : List UInt8} {escrituras : List PaginaAccion}
    {sizeAnterior : ℕ} (h : Puntual E s) :
    Spec (escribirAcciones E pagina valor escrituras sizeAnterior s) (Puntual E)
      (· ≠ .sinRetorno) := by
  induction escrituras generalizing s sizeAnterior with
  | nil => exact h
  | cons escritura escrituras ih =>
    refine (hpag _ s).bind fun p hp => ?_
    obtain ⟨c, hc, hp⟩ := hp
    exact (h.escribirEnPagina hE hc hp _ _).bind fun r hr => ih hr

theorem Puntual.leerAcciones {pagina : ℕ → Estado → Except Falla ℕ} (hE : Repone E)
    (hpag : Busca pagina) {buffer : List UInt8} {lecturas : List PaginaAccion}
    {sizeAnterior : ℕ} (h : Puntual E s) :
    Spec (leerAcciones E pagina lecturas sizeAnterior buffer s) (fun r => Puntual E r.2)
      (· ≠ .sinRetorno) := by
  induction lecturas generalizing s sizeAnterior buffer with
  | nil => exact h
  | cons lectura lecturas ih =>
    refine (hpag _ s).bind fun p hp => ?_
    obtain ⟨c, hc, hp⟩ := hp
    refine (h.leerEnPagina hE hc hp _ _).bind fun r hr => ?_
    obtain ⟨resultado, s₁⟩ := r
    cases resultado with
    | none => exact Falla.noConfusion
    | some bytes => exact ih hr

theorem obtenerIndiceDeAlloc_manos (allocs : List Alloc) (direccion : ℕ) :
    Spec (obtenerIndiceDeAlloc allocs direccion) (fun _ => True) (· ≠ .sinRetorno) := by
  unfold obtenerIndiceDeAlloc
  split
  · exact trivial
  · exact Falla.noConfusion

theorem Puntual.persistirMetadataHeap (h : Puntual E s) (hE : Repone E) (unAlloc : Alloc) :
    Spec (persistirMetadataHeap E pid unAlloc s) (Puntual E) (· ≠ .sinRetorno) := by
  refine (carpinchoDe_manos pid s).bind fun c _ => ?_
  refine (obtenerIndiceDeAlloc_manos _ _).bind fun indice _ => ?_
  exact h.escribirAcciones hE (paginaPorNumero_busca pid)

theorem Puntual.setAllocs (h : Puntual E s) (allocs : List Alloc) :
    Puntual E (setAllocs pid allocs s) := by
  refine ⟨h.toLibroNumerado.setAllocs allocs, ?_⟩
  have heq : (Memoria.setAllocs pid allocs s).cuadrante = s.cuadrante :=
    cuadrante_congr (map_setCarpincho (fun _ => by rfl) pid s) rfl (fun _ => rfl) rfl
  rw [heq]
  exact h.enHora

end Accesos

section Creacion

variable {V : ℤ → ℤ → Prop} {N : ℕ → ℤ × ℤ} {pagina : ℤ} {d : Proceso}

structure Nueva (s : Estado) (p : ℕ) (x : ℤ × ℤ) : Prop where
  nombre : (s.cuadrante.lugar p).nombre = x
  numero : x.2 ≠ 0
  inexistente : ¬ s.cuadrante.existe p
  ninguna : ∀ q, s.cuadrante.existe q → (s.cuadrante.lugar q).nombre ≠ x
  marcos : ∀ m ∈ s.marcosList, m.nombre ≠ x

theorem Nueva.libre {m : Marco} (h : Nueva s p (d.pid, pagina)) (hr : s.cuadrante.Padron)
    (he : s.cuadrante.EnHora E.config.tipoAsignacion) (hh : Huella V N s)
    (hd : d ∈ s.cuadrante.procesos) (hm : m ∈ s.marcosList) (hfree : m.isFree = true) :
    (((s.cuadrante.ocupar m.marco (d.pid, pagina)).ubicar p m.marco true).agregar d.pid
      p).EnHora E.config.tipoAsignacion := by
  have hlibre : s.cuadrante.Libre m.marco := by
    refine ⟨⟨m, hm, rfl⟩, ?_⟩
    rintro q ⟨c, hc, hq⟩ m' hm' hmarco hmq
    obtain rfl := hh.tablas.marco_inj hm' hm hmarco
    exact (hr.nombres c hc q hq).2 (by rw [← hmq]; exact (hh.tablas.libres m' hm' hfree).2)
  have hafuera : s.cuadrante.alojada p = false := by
    rw [Bool.eq_false_iff, Ne, Cuadrante.alojada_iff, h.nombre]
    rintro ⟨m', hm', hmp⟩
    exact h.marcos m' hm' hmp
  have henhora := he.crear hr hd hlibre hafuera h.inexistente fun q hq => by
    rw [h.nombre]
    exact h.ninguna q hq
  rw [Cuadrante.alojar, h.nombre] at henhora
  exact henhora

theorem swampearPaginaWhenCreatePage_enHora (h : Nueva s p (d.pid, pagina)) (hE : Repone E)
    (hr : s.cuadrante.Padron) (he : s.cuadrante.EnHora E.config.tipoAsignacion)
    (hh : Huella V N s) (hd : d ∈ s.cuadrante.procesos) :
    Spec (swampearPaginaWhenCreatePage E d.pid pagina s)
      (fun r => (((r.2.cuadrante.ocupar r.1 (d.pid, pagina)).ubicar p r.1 true).agregar d.pid
        p).EnHora E.config.tipoAsignacion)
      (· ≠ .sinRetorno) := by
  refine (elegirPaginaASwampear_escogida hE hr he hh d.pid).bind fun r hv => ?_
  obtain ⟨v, s₁⟩ := r
  dsimp only at hv ⊢
  have hexiste : ∀ q, s₁.cuadrante.existe q → s.cuadrante.existe q := by
    rintro q ⟨c', hc', hq⟩
    have hmem := List.mem_map_of_mem (f := fun c : Proceso => (c.pid, c.paginas)) hc'
    rw [hv.duenios] at hmem
    obtain ⟨c, hc, heq⟩ := List.mem_map.1 hmem
    have hpaginas : c.paginas = c'.paginas := congrArg Prod.snd heq
    exact ⟨c, hc, hpaginas ▸ hq⟩
  obtain ⟨d', hd', hpid⟩ : ∃ d' ∈ s₁.cuadrante.procesos, d'.pid = d.pid := by
    have hmem := List.mem_map_of_mem (f := fun c : Proceso => (c.pid, c.paginas)) hd
    rw [← hv.duenios] at hmem
    obtain ⟨d', hd', heq⟩ := List.mem_map.1 hmem
    exact ⟨d', hd', congrArg Prod.fst heq⟩
  refine (desalojarPagina_cuadrante hv.huella v d.pid pagina).mono ?_ fun _ he => he
  rintro ⟨k, s₂⟩ ⟨hk, hmarco, hcuadrante⟩
  dsimp only at hk hmarco hcuadrante ⊢
  obtain rfl := hmarco
  have hnombre : (s₁.cuadrante.lugar p).nombre = (d.pid, pagina) := by rw [hv.lugar, h.nombre]
  have hafuera : (s₁.cuadrante.vaciar v (s₁.cuadrante.lugar v).marco).alojada p = false := by
    rw [Bool.eq_false_iff, Ne, Cuadrante.alojada_iff, Cuadrante.nombre_vaciar, hnombre]
    rintro ⟨m, hm, hmp⟩
    obtain ⟨u, hu, rfl⟩ := List.mem_map.1 hm
    rw [hv.marcos] at hu
    split at hmp
    · exact h.numero (congrArg Prod.snd hmp).symm
    · exact h.marcos u hu hmp
  have henhora := hv.enHora.crear_desalojando hv.padron hd' (hpid ▸ hv.candidata) hk hafuera
    (fun hq => h.inexistente (hexiste p hq)) fun q hq => by
      rw [hnombre, hv.lugar]
      exact h.ninguna q (hexiste q hq)
  rw [Cuadrante.alojar, Cuadrante.nombre_vaciar, hnombre, hpid] at henhora
  rw [hcuadrante, Cuadrante.ocupar_ocupar]
  exact henhora

theorem marcoParaPaginaNueva_enHora (h : Nueva s p (d.pid, pagina)) (hE : Repone E)
    (hr : s.cuadrante.Padron) (he : s.cuadrante.EnHora E.config.tipoAsignacion)
    (hh : Huella V N s) (hd : d ∈ s.cuadrante.procesos) (beforeValue : Bool) :
    Spec (marcoParaPaginaNueva E beforeValue d.pid pagina s)
      (fun r => (((r.2.cuadrante.ocupar r.1 (d.pid, pagina)).ubicar p r.1 true).agregar d.pid
        p).EnHora E.config.tipoAsignacion)
      (· ≠ .sinRetorno) := by
  unfold marcoParaPaginaNueva
  split
  · split
    · exact Falla.noConfusion
    · next m hm =>
      obtain ⟨hmem, hfree⟩ := List.mem_filter.1 ((mem_ordenarPor _ _).mem_iff.1 (mem_of_listGet hm))
      exact h.libre hr he hh hd hmem hfree
  · exact swampearPaginaWhenCreatePage_enHora h hE hr he hh hd

theorem LibroNumerado.not_paginaDe (h : LibroNumerado s) {c : Carpincho}
    (hc : c ∈ s.carpinchosList) : ¬ PaginaDe s c.pid ((c.paginas.length + 1 : ℕ) : ℤ) := by
  rintro ⟨d, hd, hpid, q, hq, hnombre⟩
  obtain rfl := h.eq_of_pid hd hc hpid
  obtain ⟨k, hk⟩ := List.mem_iff_getElem?.1 hq
  have hnumero := congrArg Prod.snd ((h.numeradas.numeros d hd k q hk).symm.trans hnombre)
  obtain ⟨hlt, -⟩ := List.getElem?_eq_some_iff.1 hk
  dsimp only at hnumero
  omega

theorem cuadrante_agregar (pid : ℤ) (p : ℕ) (s : Estado) :
    (s.setCarpincho pid fun c => { c with paginas := c.paginas ++ [p] }).cuadrante =
      s.cuadrante.agregar pid p := by
  simp only [Estado.cuadrante, setCarpincho, Cuadrante.agregar, List.map_map]
  congr 1
  refine List.map_congr_left fun c _ => ?_
  simp only [Function.comp_apply]
  by_cases hpid : c.pid = pid
  · rw [if_pos hpid]
    exact (if_pos hpid).symm
  · rw [if_neg hpid]
    exact (if_neg hpid).symm

theorem Puntual.marcoParaPaginaNueva (h : Puntual E s) (hE : Repone E) {c : Carpincho}
    (hc : c ∈ s.carpinchosList) (beforeValue : Bool) :
    Spec (marcoParaPaginaNueva E beforeValue c.pid (c.paginas.length + 1 : ℕ) (conDescriptor c s))
      (fun r => (((r.2.cuadrante.ocupar r.1 (c.pid, ((c.paginas.length + 1 : ℕ) : ℤ))).ubicar
        s.proximoPtr r.1 true).agregar c.pid s.proximoPtr).EnHora E.config.tipoAsignacion ∧
        ∀ t ∈ r.2.tlbList, t.marco ≠ -1 → t.marco ≠ r.1)
      (· ≠ .sinRetorno) := by
  have hheredada : (conDescriptor c s).cuadrante = s.cuadrante.conLugar s.proximoPtr
      (paginaNueva c.pid (c.paginas.length + 1)).lugar :=
    cuadrante_setPagina_lugar _ _ _
  have hp : ¬ s.cuadrante.existe s.proximoPtr := by
    intro hexiste
    obtain ⟨d, hd, hp⟩ := existe_cuadrante.1 hexiste
    exact absurd (h.paginas d hd _ hp).1 (Nat.lt_irrefl _)
  have hno := h.toLibroNumerado.not_paginaDe hc
  have hh : Huella (fun pid' pagina => PaginaDe s pid' pagina ∨
      pid' = c.pid ∧ pagina = (c.paginas.length + 1 : ℕ)) (nombresCon c s) (conDescriptor c s) :=
    ⟨fun _ => rfl, h.tablas.mono fun _ _ => Or.inl⟩
  have hcero : ((c.paginas.length + 1 : ℕ) : ℤ) ≠ 0 := Int.natCast_ne_zero.2 (Nat.succ_ne_zero _)
  have hnueva : ∀ q, (conDescriptor c s).cuadrante.existe q →
      ((conDescriptor c s).descriptor q).nombre ≠ (c.pid, ((c.paginas.length + 1 : ℕ) : ℤ)) := by
    intro q hq hnombre
    obtain ⟨d, hd, hq⟩ := existe_cuadrante.1 hq
    obtain ⟨hlt, hpid, -⟩ := h.paginas d hd q hq
    have hvieja : (s.descriptor q).nombre = (c.pid, ((c.paginas.length + 1 : ℕ) : ℤ)) :=
      (nombresCon_viejo c hlt).symm.trans hnombre
    exact hno ⟨d, hd, hpid.symm.trans (congrArg Prod.fst hvieja), q, hq, hvieja⟩
  have hmarcos : ∀ m ∈ (conDescriptor c s).marcosList,
      m.nombre ≠ (c.pid, ((c.paginas.length + 1 : ℕ) : ℤ)) := by
    intro m hm hnombre
    have hpagina : m.pagina = (c.paginas.length + 1 : ℕ) := congrArg Prod.snd hnombre
    cases hfree : m.isFree with
    | true => exact hcero (hpagina.symm.trans (h.tablas.libres m hm hfree).2)
    | false =>
      have hde := h.tablas.ocupados m hm hfree
      rw [hpagina, show m.pid = c.pid from congrArg Prod.fst hnombre] at hde
      exact hno hde
  have hpagina : Nueva (conDescriptor c s) s.proximoPtr
      (c.proceso.pid, ((c.paginas.length + 1 : ℕ) : ℤ)) :=
    ⟨nombresCon_nuevo c, hcero, by rw [hheredada]; exact hp, hnueva, hmarcos⟩
  have hmarco := marcoParaPaginaNueva_enHora hpagina hE
    (hheredada ▸ Cuadrante.padron_conLugar h.padron hp _) (hheredada ▸ h.enHora.conLugar hp _) hh
    (List.mem_map_of_mem hc) beforeValue
  refine hmarco.self.mono ?_ fun _ he => he
  rintro ⟨k, s₁⟩ ⟨hok, henhora⟩
  exact ⟨henhora, (hh.marcoParaPaginaNueva (Or.inr ⟨rfl, rfl⟩) hok).2⟩

theorem cuadrante_conMarco (p : ℕ) (k pid pagina : ℤ) (s : Estado) :
    (conMarco p k k pid pagina s).cuadrante =
      (s.cuadrante.ocupar k (pid, pagina)).ubicar p k true := by
  have hmarco : (conMarco p k k pid pagina s).cuadrante =
      (s.setPagina p fun q => { q with marco := k, bitPresencia := true }).cuadrante.ocupar k
        (pid, pagina) := rfl
  rw [hmarco, cuadrante_setPagina_lugar]
  rfl

theorem Puntual.createPagina (h : Puntual E s) (hE : Repone E) (pid : ℤ) :
    Spec (createPagina E pid s) (fun r => Puntual E r.2) (· ≠ .sinRetorno) := by
  have hmanos : Spec (Memoria.createPagina E pid s)
      (fun r => r.2.cuadrante.EnHora E.config.tipoAsignacion) (· ≠ .sinRetorno) := by
    unfold Memoria.createPagina
    split
    · exact Falla.noConfusion
    · next c hc =>
      have hpuede : Spec (canCarpinchoAddMarcoToPage E c { s with proximoPtr := s.proximoPtr + 1 })
          (fun _ => True) (· ≠ .sinRetorno) := by
        have hpresentes : Spec (getAllPagesInCache { s with proximoPtr := s.proximoPtr + 1 })
            (fun _ => True) (· ≠ .sinRetorno) :=
          (paginasLegibles_manos _ _).bind fun _ _ => trivial
        refine hpresentes.bind fun presentes _ => ?_
        cases E.config.tipoAsignacion with
        | fija => exact trivial
        | dinamica => exact trivial
      refine hpuede.bind fun beforeValue _ => ?_
      have hmem := (getCarpincho_pid hc).2
      refine (h.marcoParaPaginaNueva hE hmem beforeValue).bind fun r hr => ?_
      obtain ⟨k, s₁⟩ := r
      obtain ⟨henhora, hlibre⟩ := hr
      dsimp only at henhora hlibre ⊢
      split
      · exact Falla.noConfusion
      · next instancia hinstancia =>
        obtain ⟨-, hnumero⟩ := getMarcoByMarcoNumber_some hinstancia
        rw [hnumero]
        have hcon : ∀ t ∈ (conMarco s.proximoPtr k k c.pid (c.paginas.length + 1 : ℕ) s₁).tlbList,
            t.marco ≠ -1 → t.marco ≠ k := hlibre
        refine (actualizarTlb_manos (isMarcoInTlb_of_libre hcon)).bind fun s₂ hs₂ => ?_
        refine (marcarCreacion_manos s.proximoPtr s₂).bind fun s₃ hs₃ => ?_
        rw [spec_ok, cuadrante_agregar, hs₃, hs₂, cuadrante_conMarco]
        exact henhora
  refine hmanos.self.mono ?_ fun _ he => he
  rintro ⟨q, s'⟩ ⟨hok, henhora⟩
  exact ⟨h.toLibroNumerado.createPagina hok, henhora⟩

theorem Puntual.crearPaginas (hE : Repone E) {n : ℕ} (h : Puntual E s) (pid : ℤ) :
    Spec (crearPaginas E pid n s) (Puntual E) (· ≠ .sinRetorno) := by
  induction n generalizing s with
  | zero => exact h
  | succ n ih => exact (h.createPagina hE pid).bind fun r hr => ih hr

theorem Puntual.createCarpincho (h : Puntual E s) (pid : ℤ) :
    Puntual E (createCarpincho pid s) := by
  refine ⟨h.toLibroNumerado.createCarpincho pid, ?_⟩
  unfold Memoria.createCarpincho
  split
  · exact h.enHora
  · have heq : ∀ c : Carpincho, ({ s with carpinchosList := s.carpinchosList ++ [c] } :
        Estado).cuadrante =
          { s.cuadrante with procesos := s.cuadrante.procesos ++ [c.proceso] } := by
      intro c
      simp only [Estado.cuadrante, List.map_append, List.map_cons, List.map_nil]
    rw [heq]
    exact h.enHora.crearProceso pid

end Creacion

section Memalloc

theorem enInt_manos (x : ℤ) : Spec (enInt x) (fun _ => True) (· ≠ .sinRetorno) := by
  unfold enInt
  split
  · exact trivial
  · exact Falla.noConfusion

theorem calcularCantidadPaginasNecesaria_manos (cfg : Config) (libre dato : ℤ) :
    Spec (calcularCantidadPaginasNecesaria cfg libre dato) (fun _ => True) (· ≠ .sinRetorno) := by
  refine (enInt_manos _).bind fun tamanio _ => ?_
  refine (enInt_manos _).bind fun espacioNecesario _ => ?_
  split <;> exact trivial

theorem recorrerAllocs_manos (size : ℤ) (allocs : List Alloc) (espacio : ℤ) :
    Spec (recorrerAllocs size allocs espacio) (fun _ => True) (· ≠ .sinRetorno) := by
  induction allocs generalizing espacio with
  | nil => exact trivial
  | cons alloc allocs ih =>
    unfold recorrerAllocs
    split
    · exact trivial
    · refine (enInt_manos _).bind fun x _ => ?_
      exact (enInt_manos _).bind fun y _ => ih y

theorem sumarAllocs_manos (allocs : List Alloc) (espacio : ℤ) :
    Spec (sumarAllocs allocs espacio) (fun _ => True) (· ≠ .sinRetorno) := by
  induction allocs generalizing espacio with
  | nil => exact trivial
  | cons alloc allocs ih =>
    refine (enInt_manos _).bind fun x _ => ?_
    exact (enInt_manos _).bind fun y _ => ih y

theorem Puntual.preguntado (h : Puntual E s) (pid cantPag : ℤ) :
    Puntual E (preguntado pid cantPag s) :=
  ⟨h.of_duenio rfl rfl (fun _ => rfl) ⟨fun _ => rfl, h.tablas⟩, h.enHora⟩

theorem Puntual.solicitarPaginas (h : Puntual E s) (pid libre size : ℤ) :
    Spec (solicitarPaginas E pid libre size s) (fun r => Puntual E r.2) (· ≠ .sinRetorno) := by
  refine (calcularCantidadPaginasNecesaria_manos _ _ _).bind fun cantPag _ => ?_
  exact h.preguntado pid cantPag

theorem Puntual.checkAlloc (h : Puntual E s) (c : Carpincho) (size : ℤ) :
    Spec (checkAlloc E c size s) (fun r => Puntual E r.2) (· ≠ .sinRetorno) := by
  refine (recorrerAllocs_manos size c.allocs 0).bind fun o _ => ?_
  cases o with
  | none => exact h
  | some espacioOcupado =>
    refine (enInt_manos _).bind fun libre _ => ?_
    refine (enInt_manos _).bind fun necesario _ => ?_
    split
    · exact h
    · split
      · refine (enInt_manos _).bind fun disponible _ => ?_
        split
        · exact h.solicitarPaginas _ _ _
        · exact h
      · exact h.solicitarPaginas _ _ _

theorem Puntual.planificarMemalloc (h : Puntual E s) (pid : ℤ) (size : ℕ) :
    Spec (planificarMemalloc E pid size s) (fun r => Puntual E r.2) (· ≠ .sinRetorno) := by
  unfold Memoria.planificarMemalloc
  split
  · refine (calcularCantidadPaginasNecesaria_manos _ _ _).bind fun cantPag _ => ?_
    dsimp only [checkSizeSwamp]
    split
    · exact (h.preguntado pid cantPag).createCarpincho pid
    · exact h.preguntado pid cantPag
  · exact h.checkAlloc _ _

theorem Puntual.memallocEnPaginaConEspacio (h : Puntual E s) (pid : ℤ) (size : ℕ) :
    Spec (memallocAsignarEnPaginaConEspacio pid size s) (fun r => Puntual E r.2)
      (· ≠ .sinRetorno) :=
  (carpinchoDe_manos pid s).bind fun _ _ => h.setAllocs _

theorem Puntual.memallocEnHeapLibre (h : Puntual E s) (hE : Repone E) (pid : ℤ) (size : ℕ) :
    Spec (memallocAsignarEnHeapLibre E pid size s) (fun r => Puntual E r.2)
      (· ≠ .sinRetorno) := by
  refine (carpinchoDe_manos pid s).bind fun c _ => ?_
  have hasignar : Spec (asignarEnHeapLibre size c.allocs) (fun _ => True) (· ≠ .sinRetorno) := by
    unfold Memoria.asignarEnHeapLibre
    dsimp only
    split
    · exact Falla.noConfusion
    · split <;> exact trivial
  refine hasignar.bind fun asignado _ => ?_
  have hcon : Puntual E (Memoria.setAllocs pid asignado.allocs s) := h.setAllocs _
  dsimp only
  split
  · exact hcon
  · exact (hcon.persistirMetadataHeap hE _).bind fun s₂ hs₂ => hs₂

theorem Puntual.memallocEnPaginasNuevas (h : Puntual E s) (hE : Repone E) (pid : ℤ) (size : ℕ) :
    Spec (memallocAsignarEnPaginasNuevas E pid size s) (fun r => Puntual E r.2)
      (· ≠ .sinRetorno) := by
  refine (carpinchoDe_manos pid s).bind fun c _ => ?_
  refine (sumarAllocs_manos c.allocs 0).bind fun ocupado _ => ?_
  refine (enInt_manos _).bind fun libre _ => ?_
  refine (calcularCantidadPaginasNecesaria_manos _ _ _).bind fun cantPag _ => ?_
  have hpaginas : Spec (asignarPaginasCarpincho E pid cantPag s) (Puntual E)
      (· ≠ .sinRetorno) := by
    refine (Puntual.crearPaginas hE h pid).bind fun s₁ hs₁ => ?_
    exact (enInt_manos _).bind fun _ _ => hs₁
  exact hpaginas.bind fun s₁ hs₁ => hs₁.memallocEnPaginaConEspacio pid size

theorem Puntual.asignarMemalloc (h : Puntual E s) (hE : Repone E) (pid : ℤ) (size : ℕ)
    (checkStatus : CheckAllocRespuesta) :
    Spec (asignarMemalloc E pid size checkStatus s) (fun r => Puntual E r.2)
      (· ≠ .sinRetorno) := by
  cases checkStatus with
  | allocSinEspacio => exact h
  | allocHeap => exact (h.memallocEnHeapLibre hE pid size).bind fun r hr => hr
  | allocPagina => exact (h.memallocEnPaginaConEspacio pid size).bind fun r hr => hr
  | allocSolicitarPagina => exact (h.memallocEnPaginasNuevas hE pid size).bind fun r hr => hr

theorem Puntual.memoryMemalloc (h : Puntual E s) (hE : Repone E) (pid : ℤ) (size : ℕ) :
    Spec (memoryMemalloc E pid size s) (fun r => Puntual E r.2) (· ≠ .sinRetorno) := by
  refine (h.planificarMemalloc pid size).bind fun r hr => ?_
  refine (hr.asignarMemalloc hE pid size r.1).bind fun r' hr' => ?_
  obtain ⟨direccion, s₂⟩ := r'
  cases direccion with
  | none => exact hr'
  | some direccion =>
    have hpersistir : Spec (persistirDireccion E pid direccion s₂) (Puntual E)
        (· ≠ .sinRetorno) := by
      refine (carpinchoDe_manos pid s₂).bind fun c _ => ?_
      split
      · exact Falla.noConfusion
      · exact hr'.persistirMetadataHeap hE _
    exact hpersistir.bind fun s₃ hs₃ => hs₃

end Memalloc

section Acceso

theorem contarHasta_manos (size : ℕ) :
    Spec (contarHasta size) (fun _ => True) (· ≠ .sinRetorno) := by
  unfold contarHasta
  split
  · exact trivial
  · exact Falla.noConfusion

theorem Puntual.memoryMemwrite (h : Puntual E s) (hE : Repone E) (pid : ℤ) (pos : ℕ)
    (valor : List UInt8) :
    Spec (memoryMemwrite E pid pos valor s) (fun r => Puntual E r.2) (· ≠ .sinRetorno) := by
  unfold Memoria.memoryMemwrite
  split
  · exact h
  · split
    · split
      · exact Falla.noConfusion
      · dsimp only
        split
        · exact h
        · refine (contarHasta_manos _).bind fun _ _ => ?_
          exact (Puntual.escribirAcciones hE (paginaPorIndice_busca pid) h).bind fun s₁ hs₁ => hs₁
    · exact h

theorem Puntual.memoryMemread (h : Puntual E s) (hE : Repone E) (pid : ℤ) (pos : ℕ)
    (buffer : List UInt8) :
    Spec (memoryMemread E pid pos buffer s) (fun r => Puntual E r.2) (· ≠ .sinRetorno) := by
  unfold Memoria.memoryMemread
  split
  · exact h
  · split
    · refine (contarHasta_manos _).bind fun _ _ => ?_
      exact (Puntual.leerAcciones hE (paginaPorIndice_busca pid) h).bind fun r hr => hr
    · exact h

end Acceso

section Memfree

theorem unificarIzquierda_manos (previos : List Alloc) (alloc : Alloc) :
    Spec (unificarIzquierda previos alloc) (fun _ => True) (· ≠ .sinRetorno) := by
  unfold unificarIzquierda
  split
  · split
    · refine (enInt_manos _).bind fun x _ => ?_
      exact (enInt_manos _).bind fun y _ => trivial
    · exact trivial
  · exact trivial

theorem unificarDerecha_manos (alloc : Alloc) (siguientes : List Alloc) :
    Spec (unificarDerecha alloc siguientes) (fun _ => True) (· ≠ .sinRetorno) := by
  unfold unificarDerecha
  split
  · exact trivial
  · split
    · refine (enInt_manos _).bind fun x _ => ?_
      exact (enInt_manos _).bind fun y _ => trivial
    · exact trivial

theorem liberarAlloc_manos (allocs : List Alloc) (pos : ℕ) :
    Spec (liberarAlloc allocs pos) (fun _ => True) (· ≠ .sinRetorno) := by
  unfold liberarAlloc
  dsimp only
  split
  · exact trivial
  · split
    · exact trivial
    · refine (unificarIzquierda_manos _ _).bind fun r _ => ?_
      exact (unificarDerecha_manos _ _).bind fun r' _ => trivial

theorem allocsDePagina_manos (cfg : Config) (indexPag : ℤ) (allocs : List Alloc) :
    Spec (allocsDePagina cfg indexPag allocs) (fun _ => True) (· ≠ .sinRetorno) := by
  induction allocs with
  | nil => exact trivial
  | cons alloc allocs ih =>
    have hesta : Spec (allocEstaEnPagina cfg alloc indexPag) (fun _ => True)
        (· ≠ .sinRetorno) := by
      unfold allocEstaEnPagina
      dsimp only
      split
      · exact trivial
      · split
        · exact trivial
        · exact Falla.noConfusion
    exact hesta.bind fun esta _ => ih.bind fun resto _ => trivial

theorem acciones_ne_nil (cfg : Config) (pos : ℕ) : acciones cfg pos 9 ≠ [] := by
  have hanotar : ∀ pagina offset l, anotar pagina offset l ≠ [] := by
    intro pagina offset l
    unfold anotar
    split
    · exact List.cons_ne_nil _ _
    · split
      · exact List.cons_ne_nil _ _
      · exact List.cons_ne_nil _ _
  unfold acciones
  rw [show (do let a ← List.range 9; pure (a : ℤ)) = (List.range 9).map Nat.cast from
    List.flatMap_pure_eq_map _ _, List.foldl_map, List.range_succ, List.foldl_append]
  exact hanotar _ _ _

/-- A carpincho whose metadata was written has pages. -/
theorem paginas_of_persistir {c : Carpincho} {unAlloc : Alloc} (hc : getCarpincho pid s = some c)
    (h : persistirMetadataHeap E pid unAlloc s = .ok s') : c.paginas ≠ [] := by
  obtain ⟨c', hc', h⟩ := bind_eq_ok.1 h
  obtain rfl := Option.some.inj (hc.symm.trans (carpinchoDe_some hc'))
  obtain ⟨indice, -, h⟩ := bind_eq_ok.1 h
  unfold escribirHeapMemoriaFisica at h
  cases hacciones : acciones E.config unAlloc.direccion 9 with
  | nil => exact absurd hacciones (acciones_ne_nil _ _)
  | cons escritura escrituras =>
    rw [hacciones] at h
    obtain ⟨page, hpage, -⟩ := bind_eq_ok.1 h
    obtain ⟨d, hd, hpage⟩ := bind_eq_ok.1 hpage
    obtain rfl := Option.some.inj (hc.symm.trans (carpinchoDe_some hd))
    obtain ⟨o, ho, hpage⟩ := bind_eq_ok.1 hpage
    obtain ⟨-, -, ho⟩ := bind_eq_ok.1 ho
    cases o with
    | none => cases hpage
    | some q => exact List.ne_nil_of_mem (List.mem_of_find?_eq_some (Except.ok.inj ho))

/-- A free that takes no page away ends at the first look at the first page. -/
theorem compactarMientras_manos {c : Carpincho} {n : ℕ}
    (hc : getCarpincho pid s = some c) (hne : c.paginas ≠ [])
    (hno : ∀ l, allocsDePagina E.config 0 c.allocs = .ok l → todosLosAllocsEstanLibres l = false) :
    Spec (compactarMientras E pid (n + 1) s) (· = s) (· ≠ .sinRetorno) := by
  have hcompactar : Spec (compactar E pid s) (· = (false, s)) (· ≠ .sinRetorno) := by
    unfold compactar carpinchoDe
    rw [hc, ok_bind]
    split
    · next hnil => exact absurd hnil hne
    · refine (allocsDePagina_manos E.config 0 c.allocs).self.bind fun l hl => ?_
      rw [if_neg (by rw [hno l hl.1]; exact Bool.false_ne_true)]
      exact rfl
  unfold compactarMientras
  refine hcompactar.bind fun r hr => ?_
  rw [hr]
  exact rfl

theorem Puntual.memoryMemfree (h : Puntual E s) (hE : Repone E) (pid : ℤ) (pos : ℕ)
    (hno : compacta E.config pid pos s = false) :
    Spec (memoryMemfree E pid pos s) (fun r => Puntual E r.2) (· ≠ .sinRetorno) := by
  unfold Memoria.memoryMemfree
  split
  · exact h
  · next c hc =>
    split
    · next hvalida =>
      refine (liberarAlloc_manos c.allocs pos).self.bind fun o ho => ?_
      obtain ⟨hliberar, -⟩ := ho
      cases o with
      | none => exact h
      | some r =>
        obtain ⟨allocs, alloc⟩ := r
        have hcon : Puntual E (Memoria.setAllocs pid allocs s) := h.setAllocs allocs
        refine (Spec.self (hcon.persistirMetadataHeap hE alloc)).bind fun s₁ hs₁ => ?_
        obtain ⟨hpersistir, hs₁⟩ := hs₁
        obtain ⟨d, hd, hpaginas, hallocs⟩ := getCarpincho_persistir hc hpersistir
        have hne : d.paginas ≠ [] := by
          have hlista := paginas_of_persistir (getCarpincho_setAllocs hc allocs) hpersistir
          rw [hpaginas]
          exact hlista
        have hlibres : ∀ l, allocsDePagina E.config 0 d.allocs = .ok l →
            todosLosAllocsEstanLibres l = false := by
          intro l hl
          simpa [compacta, hc, hvalida, hliberar, ← hallocs, hl] using hno
        refine (compactarMientras_manos hd hne hlibres).bind fun s₂ hs₂ => ?_
        rw [hs₂]
        exact hs₁
    · exact h

theorem closeCarpincho_manos (c : Carpincho) (s : Estado) :
    DejaManos s (closeCarpincho c s) := by
  have hmarcar : ∀ (ps : List ℕ) (s : Estado), (ps.foldl (fun s p => s.setPagina p fun q =>
      { q with liberada := true }) s).cuadrante = s.cuadrante := by
    intro ps
    induction ps with
    | nil => exact fun s => rfl
    | cons p ps ih =>
      intro s
      rw [List.foldl_cons, ih]
      exact cuadrante_setPagina _ (fun _ => by rfl) p s
  exact (paginasLegibles_manos c.paginas s).bind fun _ _ => hmarcar c.paginas s

theorem alojada_of_vacante (h : LibroNumerado s) {c : Carpincho} (hc : c ∈ s.carpinchosList)
    (hvacante : vacante c.pid s = true) (hp : p ∈ c.paginas) :
    s.cuadrante.alojada p = false := by
  rw [Bool.eq_false_iff, Ne, Cuadrante.alojada_iff]
  rintro ⟨m, hm, hmp⟩
  obtain ⟨-, hpid, hcero⟩ := h.paginas c hc p hp
  cases hfree : m.isFree with
  | true => exact hcero ((congrArg Prod.snd hmp).symm.trans (h.tablas.libres m hm hfree).2)
  | false => exact vacante_marco hvacante hm hfree ((congrArg Prod.fst hmp).trans hpid)

theorem Puntual.memoryMemfreeAll (h : Puntual E s) (pid : ℤ)
    (hconserva : conservaPaginas E.config s (.memfreeAll pid) = true) :
    Spec (memoryMemfreeAll pid s) (fun r => Puntual E r.2) (· ≠ .sinRetorno) := by
  have hmanos : Spec (Memoria.memoryMemfreeAll pid s)
      (fun r => r.2.cuadrante.EnHora E.config.tipoAsignacion) (· ≠ .sinRetorno) := by
    unfold Memoria.memoryMemfreeAll
    split
    · exact h.enHora
    · next c hc =>
      obtain ⟨hpid, hmem⟩ := getCarpincho_pid hc
      obtain ⟨d, hd, hdpid⟩ := getElem?_ultimo hmem hpid
      obtain rfl := h.eq_of_pid (List.mem_of_getElem? hd) hmem (hdpid.trans hpid.symm)
      have hvacante : vacante d.pid s = true := by
        rw [conservaPaginas, ← hpid, existCarpincho_of_mem hmem] at hconserva
        exact hconserva
      refine (closeCarpincho_manos d _).bind fun s₁ hs₁ => ?_
      have hquitar : ∀ i, ({ s with carpinchosList := s.carpinchosList.eraseIdx i } :
          Estado).cuadrante = s.cuadrante.quitarProceso i := by
        intro i
        simp only [Estado.cuadrante, Cuadrante.quitarProceso, List.eraseIdx_map]
      rw [spec_ok, hs₁, hquitar]
      refine h.enHora.quitarProceso h.padron (c := d.proceso) ?_ fun q hq =>
        alojada_of_vacante h.toLibroNumerado hmem hvacante hq
      rw [Estado.cuadrante, List.getElem?_map, hd]
      rfl
  refine hmanos.self.mono ?_ fun _ he => he
  rintro ⟨status, s'⟩ ⟨hok, henhora⟩
  exact ⟨h.toLibroNumerado.memoryMemfreeAll hconserva hok, henhora⟩

end Memfree

section Corrida

/-- A call that takes no page of the tables away finds a victim whenever it looks for one. -/
theorem Puntual.llamar (h : Puntual E s) (hE : Repone E) {op : Llamada}
    (hconserva : conservaPaginas E.config s op = true) :
    Spec (llamar E op s) (fun r => Puntual E r.2) (· ≠ .sinRetorno) := by
  cases op with
  | memalloc pid size => exact (h.memoryMemalloc hE pid size).bind fun r hr => hr
  | memwrite pid pos valor => exact (h.memoryMemwrite hE pid pos valor).bind fun r hr => hr
  | memread pid pos buffer => exact (h.memoryMemread hE pid pos buffer).bind fun r hr => hr
  | memfree pid pos =>
    have hno : compacta E.config pid pos s = false := by
      simpa [conservaPaginas] using hconserva
    exact (h.memoryMemfree hE pid pos hno).bind fun r hr => hr
  | memfreeAll pid => exact (h.memoryMemfreeAll pid hconserva).bind fun r hr => hr

theorem puntual_inicial (E : Entorno) (basura : ℕ → Pagina) :
    Puntual E (inicializarMemoria E.config basura) :=
  ⟨libro_inicial E.config basura, Cuadrante.enHora_inicial _ _⟩

/-- Whenever the algorithm is given candidates, its hand points at one and it returns one. -/
def EncuentraVictima (E : Entorno) (s : Estado) : Prop :=
  ∀ pid paginas, paginasCandidatas E pid s = .ok paginas → paginas ≠ [] →
    ∃ last v s', manecillaDe E paginas s = some last ∧ last < paginas.length ∧
      getProximaASwampearByMClock E paginas s = .ok (v, s') ∧ v ∈ paginas

theorem Puntual.encuentraVictima (h : Puntual E s) : EncuentraVictima E s := by
  intro pid paginas hpaginas hne
  obtain ⟨hlast, hlt⟩ := manecillaDe_lt h.padron h.enHora hpaginas hne
  obtain ⟨v, s', -, -, hok, hv, -⟩ := getProximaASwampearByMClock_ok hlast hlt
  exact ⟨_, v, s', hlast, hlt, hok, hv⟩

/-- As long as no page of the tables leaves its carpincho, and under DINAMICA SWAmP refuses no
page, the algorithm always finds a victim, and no call comes to the end of it without one. -/
theorem corrida_encuentraVictima (E : Entorno) (basura : ℕ → Pagina) {ops : List Llamada}
    {s : Estado} (hmmu : E.config.algoritmoReemplazoMmu = .mClock)
    (hleer : E.config.tipoAsignacion = .dinamica →
      ∀ historia pid pagina, (E.leerSwamp historia pid pagina).isSome)
    (h : Reaches (llamar E) (fun s op => conservaPaginas E.config s op = true)
      (inicializarMemoria E.config basura) ops s) :
    EncuentraVictima E s ∧
      ∀ op, conservaPaginas E.config s op = true → llamar E op s ≠ .error .sinRetorno := by
  have hE : Repone E := ⟨hmmu, hleer⟩
  have hpaso : ∀ s op r s', Puntual E s → conservaPaginas E.config s op = true →
      llamar E op s = .ok (r, s') → Puntual E s' :=
    fun s op r s' hs hconserva hok => (hs.llamar hE hconserva).post_of_eq hok
  have hpuntual := h.invariant hpaso (puntual_inicial E basura)
  refine ⟨hpuntual.encuentraVictima, fun op hconserva heq => ?_⟩
  have hspec := hpuntual.llamar hE hconserva
  rw [heq] at hspec
  exact hspec rfl

def configDosMarcos : Config :=
  { configHeap with algoritmoReemplazoMmu := .mClock, tamanio := 64, tamanio_lt := by decide }

def estadoDosMarcos : Estado := inicializarMemoria configDosMarcos fun _ => paginaNueva 0 0

/-- The third page evicts the first, and the hand stands at the second of two candidates. -/
theorem corrida_encuentraVictima_dos_marcos :
    ∃ s, guardedRun (llamar (entornoFiel configDosMarcos)) (conservaPaginas configDosMarcos)
      [.memalloc 1 10, .memalloc 2 10, .memalloc 3 10] estadoDosMarcos = some s ∧
      s.algoritmStackPointer = 1 ∧ EncuentraVictima (entornoFiel configDosMarcos) s ∧
      llamar (entornoFiel configDosMarcos) (.memalloc 4 10) s ≠ .error .sinRetorno := by
  have hcorrida : (guardedRun (llamar (entornoFiel configDosMarcos))
      (conservaPaginas configDosMarcos) [.memalloc 1 10, .memalloc 2 10, .memalloc 3 10]
      estadoDosMarcos).any (fun s => s.algoritmStackPointer = 1) = true := by
    decide +kernel
  obtain ⟨s, hs, hpuntero⟩ := (Option.any_eq_true _ _).1 hcorrida
  obtain ⟨hvictima, hllamar⟩ := corrida_encuentraVictima (entornoFiel configDosMarcos) _ rfl
    (fun _ _ _ _ => rfl) (reaches_of_guardedRun hs)
  exact ⟨s, hs, of_decide_eq_true hpuntero, hvictima, hllamar _ rfl⟩

/-- A carpincho with one of the two candidates is closed: the hand stands past the other one. -/
theorem sin_victima_al_cerrar :
    ∃ s, Reaches (llamar (entornoFiel configDosMarcos)) (fun _ _ => True) estadoDosMarcos
        [.memalloc 1 10, .memalloc 2 10, .memalloc 3 10, .memfreeAll 2] s ∧
      ¬ EncuentraVictima (entornoFiel configDosMarcos) s ∧
      llamar (entornoFiel configDosMarcos) (.memalloc 4 10) s = .error .sinRetorno := by
  have hcorrida : (guardedRun (llamar (entornoFiel configDosMarcos)) (fun _ _ => true)
      [.memalloc 1 10, .memalloc 2 10, .memalloc 3 10, .memfreeAll 2] estadoDosMarcos).any
      (fun s => faults (llamar (entornoFiel configDosMarcos) (.memalloc 4 10) s) .sinRetorno &&
        returns (paginasCandidatas (entornoFiel configDosMarcos) 1 s) fun paginas =>
          !paginas.isEmpty && faults (getProximaASwampearByMClock (entornoFiel configDosMarcos)
            paginas s) .sinRetorno) = true := by
    decide +kernel
  obtain ⟨s, hs, hfalla⟩ := (Option.any_eq_true _ _).1 hcorrida
  obtain ⟨hllamar, hcandidatas⟩ := Bool.and_eq_true_iff.1 hfalla
  obtain ⟨paginas, hpaginas, hproxima⟩ := exists_of_returns hcandidatas
  obtain ⟨hne, hproxima⟩ := Bool.and_eq_true_iff.1 hproxima
  refine ⟨s, (reaches_of_guardedRun hs).mono fun _ _ _ => trivial, fun hvictima => ?_,
    eq_of_faults hllamar⟩
  obtain ⟨last, v, s', -, -, hok, -⟩ := hvictima 1 paginas hpaginas (by simpa using hne)
  rw [eq_of_faults hproxima] at hok
  cases hok

end Corrida

end Carpinchos.Memoria
