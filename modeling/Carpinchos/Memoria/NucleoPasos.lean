import Carpinchos.Memoria.NucleoInvariante

/-!
# Every step of the memory without TLB keeps its invariant

One lemma for each function, from the choice of a victim up to the calls of a run.
Each says what the function may stop with: a victim asked of an empty list, a page
that SWAmP refuses, or a call on something that does not exist.
-/

namespace Carpinchos.Memoria.Nucleo

open Outcome Bytes Replacement

variable {π : Parametros} {n n' : Nucleo}

section Eleccion

structure MismasPaginas (n n' : Nucleo) : Prop where
  nombre : n'.nombre = n.nombre
  proximoPtr : n'.proximoPtr = n.proximoPtr
  procesos : n'.procesos.map (fun c => (c.pid, c.paginas)) =
    n.procesos.map fun c => (c.pid, c.paginas)

/-- The choice of a victim touches only use bits and clock hands. -/
structure Elegido (n n' : Nucleo) : Prop where
  cache : n'.cache = n.cache
  marcos : n'.marcos = n.marcos
  nombre : n'.nombre = n.nombre
  modificada : n'.modificada = n.modificada
  orden : n'.orden = n.orden
  proximoPtr : n'.proximoPtr = n.proximoPtr
  mensajes : n'.mensajes = n.mensajes
  procesos : n'.procesos.map (fun c => (c.pid, c.paginas)) =
    n.procesos.map fun c => (c.pid, c.paginas)

theorem exists_proceso_of_map_eq {cs cs' : List Proceso}
    (h : cs'.map (fun c => (c.pid, c.paginas)) = cs.map fun c => (c.pid, c.paginas))
    {c : Proceso} (hc : c ∈ cs') : ∃ d ∈ cs, d.pid = c.pid ∧ d.paginas = c.paginas := by
  have hmem : (c.pid, c.paginas) ∈ cs.map fun c => (c.pid, c.paginas) :=
    h ▸ List.mem_map_of_mem (f := fun c : Proceso => (c.pid, c.paginas)) hc
  obtain ⟨d, hd, heq⟩ := List.mem_map.1 hmem
  exact ⟨d, hd, (Prod.mk.inj heq).1, (Prod.mk.inj heq).2⟩

theorem existe_of_map_eq
    (h : n'.procesos.map (fun c => (c.pid, c.paginas)) =
      n.procesos.map fun c => (c.pid, c.paginas)) {p : ℕ} : n'.existe p ↔ n.existe p := by
  constructor
  · rintro ⟨c, hc, hp⟩
    obtain ⟨d, hd, -, hpag⟩ := exists_proceso_of_map_eq h hc
    exact ⟨d, hd, hpag ▸ hp⟩
  · rintro ⟨c, hc, hp⟩
    obtain ⟨d, hd, -, hpag⟩ := exists_proceso_of_map_eq h.symm hc
    exact ⟨d, hd, hpag ▸ hp⟩

theorem Tablas.of_map_eq (ht : n.Tablas)
    (h : n'.procesos.map (fun c => (c.pid, c.paginas)) =
      n.procesos.map fun c => (c.pid, c.paginas))
    (hnombre : n'.nombre = n.nombre) (hptr : n'.proximoPtr = n.proximoPtr) : n'.Tablas := by
  have hpids := congrArg (List.map Prod.fst) h
  simp only [List.map_map] at hpids
  refine ⟨?_, ?_, ?_, ?_⟩
  · exact (show n'.procesos.map Proceso.pid = n.procesos.map Proceso.pid from hpids) ▸ ht.pids
  · intro c hc
    obtain ⟨d, hd, hpid, -⟩ := exists_proceso_of_map_eq h hc
    exact hpid ▸ ht.pid_ne d hd
  · intro c hc i hi
    obtain ⟨d, hd, hpid, hpag⟩ := exists_proceso_of_map_eq h hc
    have := ht.nombre d hd i (by rw [hpag]; exact hi)
    simp only [hpag, hpid] at this
    rw [hnombre, this]
  · intro p hp
    rw [hptr]
    exact ht.ptr_lt p ((existe_of_map_eq h).1 hp)

theorem MarcosBien.of_map_eq (hm : n.MarcosBien π)
    (h : n'.procesos.map (fun c => (c.pid, c.paginas)) =
      n.procesos.map fun c => (c.pid, c.paginas))
    (hmarcos : n'.marcos = n.marcos) : n'.MarcosBien π :=
  ⟨fun k p hk => hm.lt k p (hmarcos ▸ hk),
    fun k p hk => (existe_of_map_eq h).2 (hm.existe k p (hmarcos ▸ hk)),
    fun k k' p hk hk' => hm.inj k k' p (hmarcos ▸ hk) (hmarcos ▸ hk')⟩

theorem map_setProceso (pid : ℤ) {f : Proceso → Proceso}
    (hf : ∀ c, (f c).pid = c.pid ∧ (f c).paginas = c.paginas) :
    (n.setProceso pid f).procesos.map (fun c => (c.pid, c.paginas)) =
      n.procesos.map fun c => (c.pid, c.paginas) := by
  simp only [setProceso, List.map_map, Function.comp_def]
  refine List.map_congr_left fun c _ => ?_
  split <;> simp [hf c]

theorem elegido_ponerManecilla (h : n.Bien π) {pid : ℤ} {j : ℕ} {uso : ℕ → Bool}
    (hj : j < (n.candidatos π pid).length) :
    Elegido n ({ n with uso := uso }.ponerManecilla π pid j (n.candidatos π pid).length) ∧
      ({ n with uso := uso }.ponerManecilla π pid j (n.candidatos π pid).length).Bien π := by
  have hman := h.manecillas
  unfold Manecillas at hman
  unfold ponerManecilla
  cases htipo : π.tipoAsignacion with
  | fija =>
    have hcandidatos : n.candidatos π pid = (n.residentes π).filter (n.esDe pid) := by
      simp only [candidatos, htipo]
    rw [htipo] at hman
    rw [hcandidatos, length_filter_residentes] at hj ⊢
    have hmap := map_setProceso (n := { n with uso := uso }) pid
      (f := fun c =>
        { c with puntero := if n.ocupados π (n.esDe pid) ≤ j + 1 then 0 else j + 1 })
      fun c => ⟨rfl, rfl⟩
    refine ⟨⟨rfl, rfl, rfl, rfl, rfl, rfl, rfl, hmap⟩,
      ⟨h.tablas.of_map_eq hmap rfl rfl, h.marcos.of_map_eq hmap rfl, ?_⟩⟩
    rw [Manecillas, htipo]
    intro c hc
    obtain ⟨d, hd, rfl⟩ := List.mem_map.1 hc
    split
    · next hpid =>
      subst hpid
      by_cases hfin : n.ocupados π (n.esDe d.pid) ≤ j + 1
      · exact Or.inl (if_pos hfin)
      · exact Or.inr ((if_neg hfin).trans_lt (not_le.1 hfin))
    · exact hman d hd
  | dinamica =>
    have hcandidatos : n.candidatos π pid = n.residentes π := by
      simp only [candidatos, htipo]
    rw [htipo] at hman
    rw [hcandidatos, length_residentes] at hj ⊢
    refine ⟨⟨rfl, rfl, rfl, rfl, rfl, rfl, rfl, rfl⟩,
      ⟨h.tablas.of_map_eq rfl rfl rfl, h.marcos.of_map_eq rfl rfl, ?_⟩⟩
    rw [Manecillas, htipo]
    by_cases hfin : (n.ocupados π fun _ => true) ≤ j + 1
    · exact Or.inl (if_pos hfin)
    · exact Or.inr ((if_neg hfin).trans_lt (not_le.1 hfin))

theorem manecilla_lt (h : n.Bien π) {pid : ℤ} (hne : n.candidatos π pid ≠ []) :
    ∃ last, n.manecilla π pid = some last ∧ last < (n.candidatos π pid).length := by
  have hpos : 0 < (n.candidatos π pid).length := List.length_pos_iff.2 hne
  have hman := h.manecillas
  unfold Manecillas at hman
  unfold manecilla
  unfold candidatos at hpos hne ⊢
  cases htipo : π.tipoAsignacion with
  | fija =>
    simp only [htipo] at hman hpos hne ⊢
    obtain ⟨p, hp⟩ := List.exists_mem_of_ne_nil _ hne
    obtain ⟨hres, hpid⟩ := List.mem_filter.1 hp
    obtain ⟨k, hk, hmk⟩ := mem_residentes.1 hres
    obtain ⟨c, hc, hmem, -⟩ := h.tablas.existe_proceso (h.marcos.existe k p hmk)
    have hcpid : (n.nombre p).1 = pid := by simpa [esDe] using hpid
    rw [hcpid] at hc
    refine ⟨c.puntero, by rw [hc]; rfl, ?_⟩
    rw [length_filter_residentes] at hpos ⊢
    rcases hman c hmem with h0 | hlt
    · omega
    · rwa [(proceso_some hc).2] at hlt
  | dinamica =>
    simp only [htipo] at hman hpos hne ⊢
    refine ⟨n.puntero, rfl, ?_⟩
    rw [length_residentes] at hpos ⊢
    omega

theorem elegirMClock_spec (h : n.Bien π) (pid : ℤ) :
    Spec (n.elegirMClock π pid)
      (fun r => r.1 ∈ n.candidatos π pid ∧ Elegido n r.2 ∧ r.2.Bien π)
      (· = .candidatosVacios) := by
  unfold elegirMClock
  split
  · rfl
  · next hne =>
    obtain ⟨last, hlast, hlt⟩ := manecilla_lt h hne
    rw [hlast]
    have hdrop : (n.candidatos π pid).drop last ≠ [] := by
      rw [Ne, List.drop_eq_nil_iff]
      omega
    have hsome : (search n.modificada ((n.candidatos π pid).drop last) last cuatroPasadas
        n.uso).1.isSome := search_isSome hdrop rfl
    simp only
    split
    · next heq =>
      rw [heq] at hsome
      simp at hsome
    · next v j uso heq =>
      obtain ⟨hv, hj⟩ := search_mem heq
      rw [List.length_drop] at hj
      exact ⟨List.mem_of_mem_drop hv, elegido_ponerManecilla h (by omega)⟩

theorem elegirLru_spec (h : n.Bien π) (pid : ℤ) :
    Spec (n.elegirLru π pid)
      (fun r => r.1 ∈ n.candidatos π pid ∧ Elegido n r.2 ∧ r.2.Bien π)
      (· = .candidatosVacios) := by
  unfold elegirLru
  split
  · rfl
  · next v vs heq =>
    have hv : v ∈ n.orden.filter fun p => decide (p ∈ n.candidatos π pid) := by
      rw [heq]
      exact List.mem_cons_self
    exact ⟨by simpa using (List.mem_filter.1 hv).2, ⟨rfl, rfl, rfl, rfl, rfl, rfl, rfl, rfl⟩, h⟩

theorem elegir_spec (h : n.Bien π) (pid : ℤ) :
    Spec (n.elegir π pid)
      (fun r => r.1 ∈ n.candidatos π pid ∧ Elegido n r.2 ∧ r.2.Bien π)
      (· = .candidatosVacios) := by
  unfold elegir
  split
  · exact elegirLru_spec h pid
  · exact elegirMClock_spec h pid

end Eleccion

section Desalojo

@[simp] theorem reemplazar_marcos (v k p : ℕ) :
    (n.reemplazar π v k p).marcos = Function.update n.marcos k (some p) := by
  unfold reemplazar guardar
  split <;> rfl

@[simp] theorem reemplazar_orden (v k p : ℕ) :
    (n.reemplazar π v k p).orden = n.orden.erase v := by
  unfold reemplazar guardar
  split <;> rfl

@[simp] theorem reemplazar_cache (v k p : ℕ) :
    (n.reemplazar π v k p).cache = fill n.cache (k * π.tamanioPagina) π.tamanioPagina guion := by
  unfold reemplazar guardar
  split <;> rfl

@[simp] theorem reemplazar_procesos (v k p : ℕ) :
    (n.reemplazar π v k p).procesos = n.procesos := by
  unfold reemplazar guardar
  split <;> rfl

@[simp] theorem reemplazar_nombre (v k p : ℕ) : (n.reemplazar π v k p).nombre = n.nombre := by
  unfold reemplazar guardar
  split <;> rfl

@[simp] theorem reemplazar_modificada (v k p : ℕ) :
    (n.reemplazar π v k p).modificada = n.modificada := by
  unfold reemplazar guardar
  split <;> rfl

@[simp] theorem reemplazar_uso (v k p : ℕ) : (n.reemplazar π v k p).uso = n.uso := by
  unfold reemplazar guardar
  split <;> rfl

@[simp] theorem reemplazar_puntero (v k p : ℕ) : (n.reemplazar π v k p).puntero = n.puntero := by
  unfold reemplazar guardar
  split <;> rfl

@[simp] theorem reemplazar_proximoPtr (v k p : ℕ) :
    (n.reemplazar π v k p).proximoPtr = n.proximoPtr := by
  unfold reemplazar guardar
  split <;> rfl

structure Desalojado (π : Parametros) (pid : ℤ) (p : ℕ) (n : Nucleo) (k : ℕ) (n' : Nucleo)
    (v : ℕ) (m : Nucleo) : Prop where
  candidato : v ∈ n.candidatos π pid
  elegida : Elegido n m
  bien : m.Bien π
  marco : n.marcos k = some v
  eq : n' = m.reemplazar π v k p

namespace Desalojado

variable {pid : ℤ} {p k v : ℕ} {m : Nucleo}

theorem marcos_eq (hd : Desalojado π pid p n k n' v m) :
    n'.marcos = Function.update n.marcos k (some p) := by
  rw [hd.eq, reemplazar_marcos, hd.elegida.marcos]

theorem paginas (hd : Desalojado π pid p n k n' v m) : MismasPaginas n n' := by
  refine ⟨?_, ?_, ?_⟩
  · rw [hd.eq, reemplazar_nombre, hd.elegida.nombre]
  · rw [hd.eq, reemplazar_proximoPtr, hd.elegida.proximoPtr]
  · rw [hd.eq, reemplazar_procesos, hd.elegida.procesos]

end Desalojado

theorem desalojarPara_spec (h : n.Bien π) (pid : ℤ) (p : ℕ) :
    Spec (n.desalojarPara π pid p) (fun r => ∃ v m, Desalojado π pid p n r.1 r.2 v m)
      (· = .candidatosVacios) := by
  unfold desalojarPara
  refine (elegir_spec h pid).bind fun r hr => ?_
  obtain ⟨v, m⟩ := r
  obtain ⟨hv, helegido, hbien⟩ := hr
  obtain ⟨k, -, hk⟩ := mem_residentes.1 (mem_residentes_of_candidato hv)
  have hk' : m.marcos k = some v := by rw [helegido.marcos, hk]
  simp only [hbien.marcos.marcoDe_eq hk']
  exact ⟨v, m, hv, helegido, hbien, hk, rfl⟩

theorem Manecillas.mono (h : n.Manecillas π) (hpuntero : n'.puntero = n.puntero)
    (hprocesos : ∀ c' ∈ n'.procesos, c'.puntero = 0 ∨
      ∃ c ∈ n.procesos, c.pid = c'.pid ∧ c.puntero = c'.puntero)
    (hle : ∀ q q' : ℕ → Bool, π.tipoAsignacion = .dinamica → (∀ r, q r = true) →
      (∀ r, q' r = true) → n.ocupados π q ≤ n'.ocupados π q')
    (hleDe : π.tipoAsignacion = .fija → ∀ pid,
      n.ocupados π (n.esDe pid) ≤ n'.ocupados π (n'.esDe pid)) : n'.Manecillas π := by
  unfold Manecillas at h ⊢
  split at h
  · next htipo =>
    rw [hpuntero]
    have := hle (fun _ => true) (fun _ => true) htipo (fun _ => rfl) fun _ => rfl
    omega
  · next htipo =>
    intro c' hc'
    rcases hprocesos c' hc' with h0 | ⟨c, hc, hpid, hptr⟩
    · exact Or.inl h0
    · have := hleDe htipo c'.pid
      rcases h c hc with h0 | hlt
      · exact Or.inl (hptr ▸ h0)
      · rw [hpid, hptr] at hlt
        exact Or.inr (lt_of_lt_of_le hlt this)

theorem candidato_esDe {pid : ℤ} {v : ℕ} (htipo : π.tipoAsignacion = .fija)
    (hv : v ∈ n.candidatos π pid) : (n.nombre v).1 = pid := by
  unfold candidatos at hv
  rw [htipo] at hv
  simpa [esDe] using (List.mem_filter.1 hv).2

/-- Replacing a victim by a page of the same carpincho keeps the invariant. -/
theorem reemplazar_bien {m : Nucleo} {v k p : ℕ} {pid : ℤ}
    (hd : Desalojado π pid p n k n' v m) (hp : n.existe p) (hpid : (n.nombre p).1 = pid)
    (hfuera : p ∉ n.residentes π) : n'.Bien π := by
  have hmk : m.marcos k = some v := by rw [hd.elegida.marcos, hd.marco]
  have hexiste : m.existe p := (existe_of_map_eq hd.elegida.procesos).2 hp
  have hres : ∀ j, m.marcos j ≠ some p := by
    intro j hj
    exact hfuera (mem_residentes.2 ⟨j, hd.bien.marcos.lt j p hj, by rwa [← hd.elegida.marcos]⟩)
  have hcount : ∀ q q' : ℕ → Bool, q v = q' p → (∀ r, q r = q' r) →
      n'.ocupados π q' = m.ocupados π q := by
    intro q q' hvp hq
    refine ocupados_update_eq (k := k) (v := v) (p := p) ?_ hmk hvp fun j r _ _ => hq r
    rw [hd.eq, reemplazar_marcos]
  obtain rfl := hd.eq
  refine ⟨hd.bien.tablas.of_map_eq (by simp) (by simp) (by simp), ?_, ?_⟩
  · exact hd.bien.marcos.update (reemplazar_marcos v k p) (hd.bien.marcos.lt k v hmk)
      (fun j _ => hres j) (fun q hq => by simpa [existe] using hq) (by simpa [existe] using hexiste)
  · refine hd.bien.manecillas.mono (by simp) (fun c hc => Or.inr ⟨c, by simpa using hc, rfl, rfl⟩)
      ?_ ?_
    · intro q q' _ hq hq'
      exact (hcount q q' (by rw [hq, hq']) fun r => by rw [hq, hq']).ge
    · intro htipo pid'
      refine (hcount _ _ ?_ fun r => by simp [esDe]).ge
      have hv := candidato_esDe htipo hd.candidato
      simp [esDe, hd.elegida.nombre, hv, hpid]

theorem reemplazar_ordenSalvo {m : Nucleo} {v k p : ℕ} {pid : ℤ} (h : n.OrdenBien π)
    (hb : n.Bien π) (hd : Desalojado π pid p n k n' v m) : n'.OrdenSalvo π p := by
  intro hlru
  obtain ⟨hnodup, hmem⟩ := h hlru
  have horden : n'.orden = n.orden.erase v := by
    rw [hd.eq, reemplazar_orden, hd.elegida.orden]
  have hmarcos := hd.marcos_eq
  rw [horden]
  refine ⟨hnodup.erase v, fun q hqp => ?_⟩
  rw [hnodup.mem_erase_iff, hmem, mem_residentes, mem_residentes, hmarcos]
  constructor
  · rintro ⟨hqv, j, hj, hmj⟩
    have hjk : j ≠ k := by
      rintro rfl
      rw [hd.marco] at hmj
      exact hqv (by simpa using hmj.symm)
    exact ⟨j, hj, by rwa [Function.update_of_ne hjk]⟩
  · rintro ⟨j, hj, hmj⟩
    by_cases hjk : j = k
    · subst hjk
      simp only [Function.update_self, Option.some.injEq] at hmj
      exact absurd hmj.symm hqp
    · rw [Function.update_of_ne hjk] at hmj
      refine ⟨?_, j, hj, hmj⟩
      rintro rfl
      exact hjk (hb.marcos.inj j k q hmj hd.marco)

end Desalojo

section Acceso

/-- The faults of the machine: nothing else stops a step. -/
def Detiene (π : Parametros) (e : Falla) : Prop :=
  e = .candidatosVacios ∨
    (e = .transferenciaRechazada ∧ ∃ historia pid pagina, π.leerSwamp historia pid pagina = none) ∨
    e = .operandoInexistente ∨ e = .fueraDeCache

theorem Bien.of_campos (h : n.Bien π) (hp : n'.procesos = n.procesos)
    (hmarcos : n'.marcos = n.marcos) (hnombre : n'.nombre = n.nombre)
    (hptr : n'.proximoPtr = n.proximoPtr) (hpuntero : n'.puntero = n.puntero) : n'.Bien π := by
  have hmap : n'.procesos.map (fun c => (c.pid, c.paginas)) =
      n.procesos.map fun c => (c.pid, c.paginas) := by rw [hp]
  refine ⟨h.tablas.of_map_eq hmap hnombre hptr, h.marcos.of_map_eq hmap hmarcos,
    h.manecillas.mono hpuntero (fun c hc => Or.inr ⟨c, hp ▸ hc, rfl, rfl⟩) ?_ ?_⟩
  · intro q q' _ hq hq'
    simp [ocupados, hmarcos, funext hq, funext hq']
  · intro _ pid
    have : n'.esDe pid = n.esDe pid := by
      funext r
      simp [esDe, hnombre]
    simp [ocupados, hmarcos, this]

structure Traida (π : Parametros) (p : ℕ) (n : Nucleo) (k : ℕ) (n' : Nucleo) : Prop where
  bien : n'.Bien π
  orden : n'.OrdenSalvo π p
  marco : n'.marcos k = some p
  paginas : MismasPaginas n n'

theorem recuperar_spec (h : n.Bien π) (ho : n.OrdenBien π) {p : ℕ} (hp : n.existe p)
    (hfuera : p ∉ n.residentes π) :
    Spec (n.recuperar π p) (fun r => Traida π p n r.1 r.2) (Detiene π) := by
  unfold recuperar
  refine ((desalojarPara_spec h (n.nombre p).1 p).mono (fun _ hr => hr)
    fun e he => Or.inl he).bind fun r hr => ?_
  obtain ⟨k, n₁⟩ := r
  obtain ⟨v, m, hd⟩ := hr
  have hbien := reemplazar_bien hd hp rfl hfuera
  have horden := reemplazar_ordenSalvo ho h hd
  have hpaginas : MismasPaginas n n₁ := hd.paginas
  have hmarco : n₁.marcos k = some p := by
    rw [show n₁.marcos = _ from hd.marcos_eq, Function.update_self]
  simp only
  split
  · next hleer => exact Or.inr (Or.inl ⟨rfl, _, _, _, hleer⟩)
  · exact ⟨hbien.of_campos rfl rfl rfl rfl rfl, horden, hmarco,
      ⟨hpaginas.nombre, hpaginas.proximoPtr, hpaginas.procesos⟩⟩

theorem traer_spec (h : n.Bien π) (ho : n.OrdenBien π) {p : ℕ} (hp : n.existe p) :
    Spec (n.traer π p) (fun r => Traida π p n r.1 r.2) (Detiene π) := by
  unfold traer
  split
  · next k hk => exact ⟨h, ho.salvo p, (marcoDe_some hk).2, ⟨rfl, rfl, rfl⟩⟩
  · next hnone =>
    refine recuperar_spec h ho hp fun hres => ?_
    obtain ⟨k, hk, hmk⟩ := mem_residentes.1 hres
    exact marcoDe_eq_none.1 hnone k hk hmk

theorem marcar_bien (h : n.Bien π) (esEscritura : Bool) (p : ℕ) :
    (n.marcar π esEscritura p).Bien π := by
  unfold marcar
  split <;> exact h.of_campos rfl rfl rfl rfl rfl

@[simp] theorem marcar_marcos (esEscritura : Bool) (p : ℕ) :
    (n.marcar π esEscritura p).marcos = n.marcos := by
  unfold marcar
  split <;> rfl

theorem marcar_ordenBien {p k : ℕ} (h : n.OrdenSalvo π p) (hb : n.Bien π)
    (hk : n.marcos k = some p) (esEscritura : Bool) :
    (n.marcar π esEscritura p).OrdenBien π := by
  intro hlru
  obtain ⟨hnodup, hmem⟩ := h hlru
  have horden : (n.marcar π esEscritura p).orden = touch p n.orden := by
    rw [marcar, hlru]
  have hres : ∀ q, q ∈ (n.marcar π esEscritura p).residentes π ↔ q ∈ n.residentes π := by
    intro q
    rw [mem_residentes, mem_residentes, marcar_marcos]
  rw [horden]
  refine ⟨nodup_touch hnodup, fun q => ?_⟩
  rw [mem_touch hnodup, hres]
  by_cases hqp : q = p
  · subst hqp
    simpa using hb.marcos.mem_residentes_of hk
  · simp [hqp, hmem q hqp]

theorem marcar_paginas (esEscritura : Bool) (p : ℕ) :
    MismasPaginas n (n.marcar π esEscritura p) := by
  unfold marcar
  split <;> exact ⟨rfl, rfl, rfl⟩

theorem leer_spec (h : n.Bien π) (ho : n.OrdenBien π) {p : ℕ} (hp : n.existe p)
    (tamanio offset : ℕ) :
    Spec (n.leer π p tamanio offset) (fun r => r.2.Bien π ∧ r.2.OrdenBien π) (Detiene π) := by
  refine (traer_spec h ho hp).bind fun r hr => ?_
  have hmarcar := And.intro (marcar_bien hr.bien false p)
    (marcar_ordenBien hr.orden hr.bien hr.marco false)
  cases alcance π.tamanioPagina offset tamanio with
  | enPagina => exact hmarcar
  | rechazado => exact hmarcar
  | fuera => exact Or.inr (Or.inr (Or.inr rfl))

theorem escribir_spec (h : n.Bien π) (ho : n.OrdenBien π) {p : ℕ} (hp : n.existe p)
    (buffer : List UInt8) (offset : ℕ) :
    Spec (n.escribir π p buffer offset) (fun r => r.2.Bien π ∧ r.2.OrdenBien π) (Detiene π) := by
  refine (traer_spec h ho hp).bind fun r hr => ?_
  obtain ⟨k, m⟩ := r
  have hmarcar : ∀ cache, ({ m with cache := cache }.marcar π true p).Bien π ∧
      ({ m with cache := cache }.marcar π true p).OrdenBien π := by
    intro cache
    have hbien : Bien π { m with cache := cache } := hr.bien.of_campos rfl rfl rfl rfl rfl
    have horden : OrdenSalvo π p { m with cache := cache } := hr.orden
    exact ⟨marcar_bien hbien _ _, marcar_ordenBien horden hbien hr.marco _⟩
  cases alcance π.tamanioPagina offset buffer.length with
  | enPagina => exact hmarcar _
  | rechazado => exact hmarcar m.cache
  | fuera => exact Or.inr (Or.inr (Or.inr rfl))

end Acceso

section Creacion

inductive Alojada (π : Parametros) (pid : ℤ) (p : ℕ) (n : Nucleo) (k : ℕ) (n' : Nucleo) : Prop
  | libre (hk : k < π.cantidadMarcos) (hlibre : n.marcos k = none)
      (heq : n' = { n with marcos := Function.update n.marcos k (some p) })
  | desalojo (v : ℕ) (m : Nucleo) (hd : Desalojado π pid p n k n' v m)

theorem alojarNueva_spec (h : n.Bien π) (pid : ℤ) (p : ℕ) :
    Spec (n.alojarNueva π pid p) (fun r => Alojada π pid p n r.1 r.2)
      (· = .candidatosVacios) := by
  unfold alojarNueva
  split
  · next hpuede =>
    obtain ⟨k, hk⟩ : ∃ k, n.marcoLibre π = some k := by
      rw [puedeTomarMarco, Bool.and_eq_true] at hpuede
      exact Option.isSome_iff_exists.1 hpuede.1
    rw [hk]
    obtain ⟨hlt, hlibre⟩ := marcoLibre_some hk
    exact .libre hlt hlibre rfl
  · refine (desalojarPara_spec h pid p).mono (fun r hr => ?_) fun _ he => he
    obtain ⟨v, m, hd⟩ := hr
    exact .desalojo v m hd

namespace Alojada

variable {pid : ℤ} {p k : ℕ}

theorem marcos (h : Alojada π pid p n k n') :
    n'.marcos = Function.update n.marcos k (some p) := by
  cases h with
  | libre hk hlibre heq => rw [heq]
  | desalojo v m hd => exact hd.marcos_eq

theorem paginas (h : Alojada π pid p n k n') : MismasPaginas n n' := by
  cases h with
  | libre hk hlibre heq => subst heq; exact ⟨rfl, rfl, rfl⟩
  | desalojo v m hd => exact hd.paginas

theorem lt (h : Alojada π pid p n k n') (hb : n.Bien π) : k < π.cantidadMarcos := by
  cases h with
  | libre hk hlibre heq => exact hk
  | desalojo v m hd => exact hb.marcos.lt k v hd.marco

theorem ordenSalvo (h : Alojada π pid p n k n') (hb : n.Bien π) (ho : n.OrdenBien π) :
    n'.OrdenSalvo π p := by
  cases h with
  | libre hk hlibre heq =>
    intro hlru
    obtain ⟨hnodup, hmem⟩ := ho hlru
    subst heq
    refine ⟨hnodup, fun q hqp => ?_⟩
    rw [hmem, mem_residentes, mem_residentes]
    refine exists_congr fun j => and_congr_right fun _ => ?_
    by_cases hjk : j = k
    · subst hjk
      simp [hlibre, Ne.symm hqp]
    · simp [Function.update_of_ne hjk]
  | desalojo v m hd => exact reemplazar_ordenSalvo ho hb hd

end Alojada

section Registrar

variable {pid : ℤ} {p : ℕ}

theorem registrar_procesos :
    (n.registrar π pid p).procesos = n.procesos.map fun c =>
      if c.pid = pid then { c with paginas := c.paginas ++ [p] } else c := by
  unfold registrar
  split <;> rfl

@[simp] theorem registrar_marcos : (n.registrar π pid p).marcos = n.marcos := by
  unfold registrar
  split <;> rfl

@[simp] theorem registrar_nombre : (n.registrar π pid p).nombre = n.nombre := by
  unfold registrar
  split <;> rfl

@[simp] theorem registrar_proximoPtr : (n.registrar π pid p).proximoPtr = n.proximoPtr := by
  unfold registrar
  split <;> rfl

@[simp] theorem registrar_puntero : (n.registrar π pid p).puntero = n.puntero := by
  unfold registrar
  split <;> rfl

@[simp] theorem registrar_cache : (n.registrar π pid p).cache = n.cache := by
  unfold registrar
  split <;> rfl

@[simp] theorem registrar_mensajes : (n.registrar π pid p).mensajes = n.mensajes := by
  unfold registrar
  split <;> rfl

theorem existe_registrar {c : Proceso} (hc : c ∈ n.procesos) (hpid : c.pid = pid) {q : ℕ} :
    (n.registrar π pid p).existe q ↔ n.existe q ∨ q = p := by
  unfold existe
  rw [registrar_procesos]
  constructor
  · rintro ⟨d, hd, hq⟩
    obtain ⟨e, he, rfl⟩ := List.mem_map.1 hd
    split at hq
    · rcases List.mem_append.1 hq with hq | hq
      · exact Or.inl ⟨e, he, hq⟩
      · exact Or.inr (List.mem_singleton.1 hq)
    · exact Or.inl ⟨e, he, hq⟩
  · rintro (⟨d, hd, hq⟩ | rfl)
    · refine ⟨_, List.mem_map_of_mem hd, ?_⟩
      split
      · exact List.mem_append_left _ hq
      · exact hq
    · refine ⟨_, List.mem_map_of_mem hc, ?_⟩
      rw [if_pos hpid]
      simp

theorem registrar_tablas (h : n.Tablas) {c : Proceso} (hc : c ∈ n.procesos) (hpid : c.pid = pid)
    (hnombre : n.nombre p = (pid, ((c.paginas.length : ℕ) : ℤ) + 1)) (hp : p < n.proximoPtr) :
    (n.registrar π pid p).Tablas := by
  refine ⟨?_, ?_, ?_, ?_⟩
  · have : (n.registrar π pid p).procesos.map Proceso.pid = n.procesos.map Proceso.pid := by
      rw [registrar_procesos, List.map_map]
      refine List.map_congr_left fun d _ => ?_
      simp only [Function.comp_apply]
      split <;> rfl
    rw [this]
    exact h.pids
  · intro d hd
    rw [registrar_procesos] at hd
    obtain ⟨e, he, rfl⟩ := List.mem_map.1 hd
    split
    · exact h.pid_ne e he
    · exact h.pid_ne e he
  · intro d hd i hi
    rw [registrar_procesos] at hd
    obtain ⟨e, he, rfl⟩ := List.mem_map.1 hd
    rw [registrar_nombre]
    by_cases hepid : e.pid = pid
    · obtain rfl : e = c := List.inj_on_of_nodup_map h.pids he hc (hepid.trans hpid.symm)
      simp only [hepid, if_true] at hi ⊢
      by_cases hilt : i < e.paginas.length
      · rw [List.getElem_append_left hilt, h.nombre e he i hilt, hepid]
      · have hilen : i = e.paginas.length := by
          simp only [List.length_append, List.length_singleton] at hi
          omega
        subst hilen
        simpa using hnombre
    · simp only [hepid, if_false] at hi ⊢
      exact h.nombre e he i hi
  · intro q hq
    rw [registrar_proximoPtr]
    rcases (existe_registrar hc hpid).1 hq with hq | rfl
    · exact h.ptr_lt q hq
    · exact hp

end Registrar

section Nombrar

variable {pid numero : ℤ}

theorem nombrar_nombre {q : ℕ} (hq : q ≠ n.proximoPtr) :
    (n.nombrar pid numero).nombre q = n.nombre q :=
  Function.update_of_ne hq _ _

theorem no_existe_proximoPtr (h : n.Tablas) : ¬ n.existe n.proximoPtr :=
  fun hex => lt_irrefl _ (h.ptr_lt _ hex)

theorem nombrar_nombre_of_existe (h : n.Bien π) {q : ℕ} (hq : n.existe q) :
    (n.nombrar pid numero).nombre q = n.nombre q :=
  nombrar_nombre fun heq => no_existe_proximoPtr h.tablas (heq ▸ hq)

/-- A name for a page that does not exist yet changes nothing. -/
theorem nombrar_bien (h : n.Bien π) : (n.nombrar pid numero).Bien π := by
  have hnombre : ∀ q, n.existe q → (n.nombrar pid numero).nombre q = n.nombre q :=
    fun q hq => nombrar_nombre_of_existe h hq
  refine ⟨⟨h.tablas.pids, h.tablas.pid_ne, ?_, ?_⟩,
    ⟨h.marcos.lt, h.marcos.existe, h.marcos.inj⟩, ?_⟩
  · intro c hc i hi
    rw [hnombre _ ⟨c, hc, List.getElem_mem hi⟩]
    exact h.tablas.nombre c hc i hi
  · intro p hp
    exact Nat.lt_succ_of_lt (h.tablas.ptr_lt p hp)
  · refine h.manecillas.mono rfl (fun c hc => Or.inr ⟨c, hc, rfl, rfl⟩) ?_ ?_
    · intro q q' _ hq hq'
      exact le_of_eq (by simp [ocupados, nombrar, funext hq, funext hq'])
    · intro _ pid'
      refine le_of_eq (List.countP_congr fun k _ => ?_)
      cases hk : n.marcos k with
      | none => simp [nombrar, hk]
      | some q =>
        have := hnombre q (h.marcos.existe k q hk)
        simp only [nombrar] at this
        simp [nombrar, hk, esDe, this]

theorem filter_esDe_nombrar (h : n.Bien π) (pid numero pid' : ℤ) :
    ((n.nombrar pid numero).residentes π).filter ((n.nombrar pid numero).esDe pid') =
      (n.residentes π).filter (n.esDe pid') := by
  refine List.filter_congr fun q hq => ?_
  obtain ⟨k, -, hk⟩ := mem_residentes.1 hq
  simp only [esDe, nombrar_nombre_of_existe h (h.marcos.existe k q hk)]

theorem puedeTomarMarco_nombrar (h : n.Bien π) (pid numero pid' : ℤ) :
    (n.nombrar pid numero).puedeTomarMarco π pid' = n.puedeTomarMarco π pid' := by
  rw [puedeTomarMarco, puedeTomarMarco, filter_esDe_nombrar h]
  rfl

theorem candidatos_nombrar (h : n.Bien π) (pid numero pid' : ℤ) :
    (n.nombrar pid numero).candidatos π pid' = n.candidatos π pid' := by
  unfold candidatos
  rw [filter_esDe_nombrar h]
  rfl

end Nombrar

theorem registrar_manecillas {b f : Nucleo} (pid : ℤ) (p k : ℕ) (hb : b.Bien π)
    (hpid : (b.nombre p).1 = pid) (hprocesos : f.procesos = b.procesos.map fun c =>
      if c.pid = pid then { c with paginas := c.paginas ++ [p] } else c)
    (hpuntero : f.puntero = b.puntero) (hnombre : f.nombre = b.nombre)
    (hmarcos : f.marcos = Function.update b.marcos k (some p))
    (hk : b.marcos k = none ∨
      ∃ v, b.marcos k = some v ∧ (π.tipoAsignacion = .fija → (b.nombre v).1 = pid)) :
    f.Manecillas π := by
  have hle : ∀ q q' : ℕ → Bool, (∀ v, b.marcos k = some v → q v = q' p) →
      (∀ r, q r = q' r) → b.ocupados π q ≤ f.ocupados π q' := by
    intro q q' hvp hq
    have hq' : ∀ j r, j ≠ k → b.marcos j = some r → q r = q' r := fun j r _ _ => hq r
    rcases hk with hk | ⟨v, hv, -⟩
    · exact ocupados_update_le hmarcos hk hq'
    · exact (ocupados_update_eq hmarcos hv (hvp v hv) hq').ge
  refine hb.manecillas.mono hpuntero (fun c hc => ?_) ?_ ?_
  · rw [hprocesos] at hc
    obtain ⟨d, hd, rfl⟩ := List.mem_map.1 hc
    refine Or.inr ⟨d, hd, ?_⟩
    split <;> exact ⟨rfl, rfl⟩
  · intro q q' _ hq hq'
    exact hle q q' (fun v _ => by rw [hq, hq']) fun r => by rw [hq, hq']
  · intro htipo pid'
    refine hle _ _ (fun v hv => ?_) fun r => by simp [esDe, hnombre]
    rcases hk with hk | ⟨v', hv', hvpid⟩
    · rw [hk] at hv
      cases hv
    · obtain rfl : v' = v := by rw [hv'] at hv; exact Option.some.inj hv
      simp [esDe, hnombre, hpid, hvpid htipo]

theorem Alojada.mem_orden {pid : ℤ} {p k q : ℕ} (h : Alojada π pid p n k n')
    (hq : q ∈ n'.orden) : q ∈ n.orden := by
  cases h with
  | libre hk hlibre heq => subst heq; exact hq
  | desalojo v m hd =>
    rw [hd.eq, reemplazar_orden, hd.elegida.orden] at hq
    exact List.mem_of_mem_erase hq

theorem crear_spec (h : n.Bien π) (ho : n.OrdenBien π) (pid : ℤ) :
    Spec (n.crear π pid) (fun r => r.2.Bien π ∧ r.2.OrdenBien π) (Detiene π) := by
  unfold crear
  split
  · exact Or.inr (Or.inr (Or.inl rfl))
  · next c hc =>
    obtain ⟨hcmem, hcpid⟩ := proceso_some hc
    let b := n.nombrar pid (c.paginas.length + 1)
    have hb : b.Bien π := nombrar_bien h
    have hbo : b.OrdenBien π := ho
    have hbnombre : b.nombre n.proximoPtr = (pid, (c.paginas.length : ℤ) + 1) :=
      Function.update_self _ _ _
    have hfresca : ¬ b.existe n.proximoPtr := no_existe_proximoPtr h.tablas
    refine ((alojarNueva_spec hb pid n.proximoPtr).mono (fun _ hr => hr)
      fun e he => Or.inl he).bind fun r hr => ?_
    obtain ⟨k, n'⟩ := r
    change Alojada π pid n.proximoPtr b k n' at hr
    obtain ⟨c', hc', hpid', hpag'⟩ := exists_proceso_of_map_eq hr.paginas.procesos.symm hcmem
    have hpidc' : c'.pid = pid := hpid'.trans hcpid
    have ht' : n'.Tablas := hb.tablas.of_map_eq hr.paginas.procesos hr.paginas.nombre
      hr.paginas.proximoPtr
    have hmarcos : (n'.registrar π pid n.proximoPtr).marcos =
        Function.update b.marcos k (some n.proximoPtr) := by
      rw [registrar_marcos, hr.marcos]
    have hexiste : ∀ q, (n'.registrar π pid n.proximoPtr).existe q ↔
        b.existe q ∨ q = n.proximoPtr := by
      intro q
      rw [existe_registrar hc' hpidc', existe_of_map_eq hr.paginas.procesos]
    refine ⟨⟨registrar_tablas ht' hc' hpidc' ?_ ?_, ?_, ?_⟩, ?_⟩
    · rw [hr.paginas.nombre, hbnombre, hpag']
    · rw [hr.paginas.proximoPtr]
      exact Nat.lt_succ_self _
    · exact hb.marcos.update hmarcos (hr.lt hb)
        (fun j _ hj => hfresca (hb.marcos.existe j _ hj))
        (fun q hq => (hexiste q).2 (Or.inl hq)) ((hexiste _).2 (Or.inr rfl))
    · cases hr with
      | libre hk hlibre heq =>
        subst heq
        exact registrar_manecillas pid n.proximoPtr k hb (by rw [hbnombre]) registrar_procesos
          registrar_puntero
          registrar_nombre registrar_marcos (Or.inl hlibre)
      | desalojo v m hd =>
        refine registrar_manecillas pid n.proximoPtr k hd.bien ?_ ?_ ?_ ?_
          (registrar_marcos.trans ?_) (Or.inr ⟨v, ?_, fun htipo => ?_⟩)
        · rw [hd.elegida.nombre, hbnombre]
        · rw [registrar_procesos, hd.eq, reemplazar_procesos]
        · rw [registrar_puntero, hd.eq, reemplazar_puntero]
        · rw [registrar_nombre, hd.eq, reemplazar_nombre]
        · rw [hd.eq, reemplazar_marcos]
        · rw [hd.elegida.marcos, hd.marco]
        · rw [hd.elegida.nombre]
          exact candidato_esDe htipo hd.candidato
    · intro hlru
      obtain ⟨hnodup, hmem⟩ := hr.ordenSalvo hb hbo hlru
      have hnotin : n.proximoPtr ∉ n'.orden := by
        intro hin
        obtain ⟨j, -, hj⟩ := mem_residentes.1 (((hbo hlru).2 _).1 (hr.mem_orden hin))
        exact hfresca (hb.marcos.existe j _ hj)
      have horden : (n'.registrar π pid n.proximoPtr).orden = n'.orden ++ [n.proximoPtr] := by
        rw [registrar, hlru]
        rfl
      rw [horden]
      refine ⟨List.nodup_append.2 ⟨hnodup, List.nodup_singleton _, ?_⟩, fun q => ?_⟩
      · intro q hq r hr' heq
        rw [List.mem_singleton] at hr'
        exact hnotin (hr' ▸ heq ▸ hq)
      · rw [List.mem_append, List.mem_singleton, mem_residentes, registrar_marcos,
          ← mem_residentes]
        by_cases hq : q = n.proximoPtr
        · subst hq
          refine iff_of_true (Or.inr rfl) (mem_residentes.2 ⟨k, hr.lt hb, ?_⟩)
          rw [hr.marcos, Function.update_self]
        · simp [hq, hmem q hq]

theorem crearProceso_spec (h : n.Bien π) (ho : n.OrdenBien π) {pid : ℤ} (hpid : pid ≠ 0) :
    (n.crearProceso pid).Bien π ∧ (n.crearProceso pid).OrdenBien π := by
  unfold crearProceso
  split
  · exact ⟨h, ho⟩
  · next hnuevo =>
    have hno : ∀ c ∈ n.procesos, c.pid ≠ pid := by simpa using hnuevo
    have hexiste : ∀ q, ({ n with procesos := n.procesos ++
        [{ pid := pid, puntero := 0, paginas := [] }] } : Nucleo).existe q ↔ n.existe q := by
      intro q
      simp [existe]
    refine ⟨⟨⟨?_, ?_, ?_, ?_⟩, ⟨h.marcos.lt, ?_, h.marcos.inj⟩, ?_⟩, ho⟩
    · rw [List.map_append]
      refine List.nodup_append.2 ⟨h.tablas.pids, List.nodup_singleton _, ?_⟩
      intro x hx y hy
      obtain ⟨c, hc, rfl⟩ := List.mem_map.1 hx
      rw [List.map_singleton, List.mem_singleton] at hy
      rw [hy]
      exact hno c hc
    · intro c hc
      rcases List.mem_append.1 hc with hc | hc
      · exact h.tablas.pid_ne c hc
      · rw [List.mem_singleton.1 hc]
        exact hpid
    · intro c hc i hi
      rcases List.mem_append.1 hc with hc | hc
      · exact h.tablas.nombre c hc i hi
      · rw [List.mem_singleton] at hc
        subst hc
        simp at hi
    · intro q hq
      exact h.tablas.ptr_lt q ((hexiste q).1 hq)
    · intro k q hk
      exact (hexiste q).2 (h.marcos.existe k q hk)
    · refine h.manecillas.mono rfl (fun c hc => ?_) (fun q q' _ hq hq' => ?_) fun _ pid' => le_rfl
      · rcases List.mem_append.1 hc with hc | hc
        · exact Or.inr ⟨c, hc, rfl, rfl⟩
        · rw [List.mem_singleton] at hc
          exact Or.inl (by rw [hc])
      · exact le_of_eq (by simp [ocupados, funext hq, funext hq'])

end Creacion

section Pasos

/-- Carpinchos have positive pids. -/
def Admisible : Operacion → Prop
  | .createCarpincho pid => 0 < pid
  | _ => True

theorem buscar_spec (pid pagina : ℤ) :
    Spec (n.buscar pid pagina) (fun p => n.existe p ∧ n.nombre p = (pid, pagina))
      (· = .operandoInexistente) := by
  unfold buscar
  split
  · rfl
  · next c hc =>
    split
    · rfl
    · next p hp =>
      exact ⟨⟨c, (proceso_some hc).1, List.mem_of_find?_eq_some hp⟩,
        by simpa using List.find?_some hp⟩

theorem paso_spec (h : n.Bien π) (ho : n.OrdenBien π) {op : Operacion} (hop : Admisible op) :
    Spec (n.paso π op) (fun r => r.2.Bien π ∧ r.2.OrdenBien π) (Detiene π) := by
  have hbuscar : ∀ pid pagina, Spec (n.buscar pid pagina)
      (fun p => n.existe p ∧ n.nombre p = (pid, pagina)) (Detiene π) := fun pid pagina =>
    (buscar_spec pid pagina).mono (fun _ hp => hp) fun _ he => Or.inr (Or.inr (Or.inl he))
  cases op with
  | createCarpincho pid =>
    have hpid : 0 < pid := hop
    exact crearProceso_spec h ho (ne_of_gt hpid)
  | createPagina pid => exact (crear_spec h ho pid).bind fun r hr => hr
  | leerEnPagina pid pagina tamanio offset =>
    refine (hbuscar pid pagina).bind fun p hp => ?_
    exact (leer_spec h ho hp.1 tamanio offset).bind fun r hr => hr
  | escribirEnPagina pid pagina buffer offset =>
    refine (hbuscar pid pagina).bind fun p hp => ?_
    exact (escribir_spec h ho hp.1 buffer offset).bind fun r hr => hr

theorem inicial_bien : inicial.Bien π := by
  refine ⟨⟨by simp [inicial], by simp [inicial], by simp [inicial], ?_⟩, ⟨?_, ?_, ?_⟩, ?_⟩
  · rintro p ⟨c, hc, -⟩
    simp [inicial] at hc
  · intro k p hk
    simp [inicial] at hk
  · intro k p hk
    simp [inicial] at hk
  · intro k k' p hk
    simp [inicial] at hk
  · unfold Manecillas
    split
    · exact Or.inl rfl
    · simp [inicial]

theorem inicial_ordenBien : inicial.OrdenBien π := by
  intro _
  refine ⟨List.nodup_nil, fun q => ?_⟩
  simp [mem_residentes, inicial]

end Pasos

end Carpinchos.Memoria.Nucleo
