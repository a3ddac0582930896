import Carpinchos.Memoria.Nucleo

/-!
# Invariants of the memory without TLB

The tables of pages are consistent with their names, no page is in two frames, the
order of last use lists the resident pages, and no clock hand points past its list.
The last fact is why the clock always finds a victim.
-/

namespace Carpinchos.Memoria.Nucleo

open Outcome Bytes Replacement

variable {π : Parametros} {n : Nucleo}

section Residentes

theorem mem_residentes {p : ℕ} :
    p ∈ n.residentes π ↔ ∃ k, k < π.cantidadMarcos ∧ n.marcos k = some p := by
  simp [residentes]

def ocupados (π : Parametros) (q : ℕ → Bool) (n : Nucleo) : ℕ :=
  (List.range π.cantidadMarcos).countP fun k => (n.marcos k).any q

theorem length_filter_residentes (q : ℕ → Bool) :
    ((n.residentes π).filter q).length = n.ocupados π q := by
  rw [residentes, ocupados]
  induction List.range π.cantidadMarcos with
  | nil => rfl
  | cons k ks ih =>
    cases hk : n.marcos k with
    | none => simpa [hk] using ih
    | some p =>
      cases hq : q p <;> simp [hk, hq, ih]

theorem length_residentes : (n.residentes π).length = n.ocupados π fun _ => true := by
  simpa using length_filter_residentes (π := π) (n := n) fun _ => true

theorem ocupados_update_eq {q q' : ℕ → Bool} {n' : Nucleo} {k v p : ℕ}
    (hmarcos : n'.marcos = Function.update n.marcos k (some p)) (hv : n.marcos k = some v)
    (hvp : q v = q' p) (hq : ∀ j r, j ≠ k → n.marcos j = some r → q r = q' r) :
    n'.ocupados π q' = n.ocupados π q := by
  unfold ocupados
  refine List.countP_congr fun j _ => ?_
  rw [hmarcos]
  by_cases hj : j = k
  · subst hj
    simp [hv, hvp]
  · rw [Function.update_of_ne hj]
    cases hr : n.marcos j with
    | none => simp
    | some r => simp [hq j r hj hr]

theorem ocupados_update_le {q q' : ℕ → Bool} {n' : Nucleo} {k p : ℕ}
    (hmarcos : n'.marcos = Function.update n.marcos k (some p)) (hk : n.marcos k = none)
    (hq : ∀ j r, j ≠ k → n.marcos j = some r → q r = q' r) :
    n.ocupados π q ≤ n'.ocupados π q' := by
  unfold ocupados
  refine List.countP_mono_left fun j _ => ?_
  rw [hmarcos]
  by_cases hj : j = k
  · subst hj
    simp [hk]
  · rw [Function.update_of_ne hj]
    cases hr : n.marcos j with
    | none => simp
    | some r => simp [hq j r hj hr]

theorem marcoDe_eq_none {p : ℕ} :
    n.marcoDe π p = none ↔ ∀ k, k < π.cantidadMarcos → n.marcos k ≠ some p := by
  simp [marcoDe]

theorem marcoDe_some {p k : ℕ} (h : n.marcoDe π p = some k) :
    k < π.cantidadMarcos ∧ n.marcos k = some p :=
  ⟨by simpa using List.mem_of_find?_eq_some h, by simpa using List.find?_some h⟩

theorem marcoLibre_some {k : ℕ} (h : n.marcoLibre π = some k) :
    k < π.cantidadMarcos ∧ n.marcos k = none :=
  ⟨by simpa using List.mem_of_find?_eq_some h, by simpa using List.find?_some h⟩

theorem proceso_some {pid : ℤ} {c : Proceso} (h : n.proceso pid = some c) :
    c ∈ n.procesos ∧ c.pid = pid :=
  ⟨List.mem_of_find?_eq_some h, by simpa using List.find?_some h⟩

theorem mem_residentes_of_candidato {pid : ℤ} {p : ℕ} (h : p ∈ n.candidatos π pid) :
    p ∈ n.residentes π := by
  unfold candidatos at h
  split at h
  · exact (List.mem_filter.1 h).1
  · exact h

end Residentes

/-- The tables of processes and pages agree with the names of the pages. -/
structure Tablas (n : Nucleo) : Prop where
  pids : (n.procesos.map Proceso.pid).Nodup
  pid_ne : ∀ c ∈ n.procesos, c.pid ≠ 0
  nombre : ∀ c ∈ n.procesos, ∀ i (h : i < c.paginas.length),
    n.nombre c.paginas[i] = (c.pid, (i : ℤ) + 1)
  ptr_lt : ∀ p, n.existe p → p < n.proximoPtr

/-- Every frame in use is a frame of the memory and holds an existing page, each page
in at most one frame. -/
structure MarcosBien (π : Parametros) (n : Nucleo) : Prop where
  lt : ∀ k p, n.marcos k = some p → k < π.cantidadMarcos
  existe : ∀ k p, n.marcos k = some p → n.existe p
  inj : ∀ k k' p, n.marcos k = some p → n.marcos k' = some p → k = k'

/-- No clock hand points past the list it runs over. -/
def Manecillas (π : Parametros) (n : Nucleo) : Prop :=
  match π.tipoAsignacion with
  | .dinamica => n.puntero = 0 ∨ n.puntero < n.ocupados π fun _ => true
  | .fija => ∀ c ∈ n.procesos, c.puntero = 0 ∨ c.puntero < n.ocupados π (n.esDe c.pid)

/-- The invariant of the machine, up to the order of last use. -/
structure Bien (π : Parametros) (n : Nucleo) : Prop where
  tablas : n.Tablas
  marcos : n.MarcosBien π
  manecillas : n.Manecillas π

/-- Under LRU the order of last use lists the resident pages other than `p`. -/
def OrdenSalvo (π : Parametros) (p : ℕ) (n : Nucleo) : Prop :=
  π.algoritmoReemplazoMmu = .lru →
    n.orden.Nodup ∧ ∀ q, q ≠ p → (q ∈ n.orden ↔ q ∈ n.residentes π)

/-- Under LRU the order of last use lists the resident pages. -/
def OrdenBien (π : Parametros) (n : Nucleo) : Prop :=
  π.algoritmoReemplazoMmu = .lru →
    n.orden.Nodup ∧ ∀ q, q ∈ n.orden ↔ q ∈ n.residentes π

theorem OrdenBien.salvo (h : n.OrdenBien π) (p : ℕ) : n.OrdenSalvo π p :=
  fun hlru => ⟨(h hlru).1, fun q _ => (h hlru).2 q⟩

namespace Tablas

theorem proceso_eq (h : n.Tablas) {c : Proceso} (hc : c ∈ n.procesos) :
    n.proceso c.pid = some c := by
  obtain ⟨d, hd⟩ : ∃ d, n.proceso c.pid = some d := by
    cases hp : n.proceso c.pid with
    | none => simpa using List.find?_eq_none.1 hp c hc
    | some d => exact ⟨d, rfl⟩
  rw [hd, List.inj_on_of_nodup_map h.pids (proceso_some hd).1 hc (proceso_some hd).2]

theorem nombre_inj (h : n.Tablas) {p q : ℕ} (hp : n.existe p) (hq : n.existe q)
    (hpq : n.nombre p = n.nombre q) : p = q := by
  obtain ⟨c, hc, hpc⟩ := hp
  obtain ⟨d, hd, hqd⟩ := hq
  obtain ⟨i, hi, rfl⟩ := List.getElem_of_mem hpc
  obtain ⟨j, hj, rfl⟩ := List.getElem_of_mem hqd
  rw [h.nombre c hc i hi, h.nombre d hd j hj, Prod.mk.injEq] at hpq
  obtain rfl : c = d := List.inj_on_of_nodup_map h.pids hc hd hpq.1
  obtain rfl : i = j := by omega
  rfl

theorem nombre_pid (h : n.Tablas) {c : Proceso} (hc : c ∈ n.procesos) {p : ℕ}
    (hp : p ∈ c.paginas) : (n.nombre p).1 = c.pid := by
  obtain ⟨i, hi, rfl⟩ := List.getElem_of_mem hp
  rw [h.nombre c hc i hi]

theorem nombre_ne (h : n.Tablas) {p : ℕ} (hp : n.existe p) : (n.nombre p).1 ≠ 0 := by
  obtain ⟨c, hc, hpc⟩ := hp
  rw [h.nombre_pid hc hpc]
  exact h.pid_ne c hc

theorem existe_proceso (h : n.Tablas) {p : ℕ} (hp : n.existe p) :
    ∃ c, n.proceso (n.nombre p).1 = some c ∧ c ∈ n.procesos ∧ p ∈ c.paginas := by
  obtain ⟨c, hc, hpc⟩ := hp
  exact ⟨c, h.nombre_pid hc hpc ▸ h.proceso_eq hc, hc, hpc⟩

theorem paginas_nodup (h : n.Tablas) {c : Proceso} (hc : c ∈ n.procesos) :
    c.paginas.Nodup := by
  rw [List.nodup_iff_injective_get]
  intro i j hij
  have hi := h.nombre c hc i i.2
  have hj := h.nombre c hc j j.2
  simp only [List.get_eq_getElem] at hij
  rw [hij, hj, Prod.mk.injEq] at hi
  exact Fin.ext (by omega)

end Tablas

namespace MarcosBien

theorem marcoDe_eq (h : n.MarcosBien π) {k p : ℕ} (hk : n.marcos k = some p) :
    n.marcoDe π p = some k := by
  cases hm : n.marcoDe π p with
  | none => exact absurd hk (marcoDe_eq_none.1 hm k (h.lt k p hk))
  | some j => rw [h.inj j k p (marcoDe_some hm).2 hk]

theorem mem_residentes_of (h : n.MarcosBien π) {k p : ℕ} (hk : n.marcos k = some p) :
    p ∈ n.residentes π :=
  mem_residentes.2 ⟨k, h.lt k p hk, hk⟩

theorem update (h : n.MarcosBien π) {n' : Nucleo} {k p : ℕ}
    (hmarcos : n'.marcos = Function.update n.marcos k (some p)) (hk : k < π.cantidadMarcos)
    (hp : ∀ j, j ≠ k → n.marcos j ≠ some p) (hexiste : ∀ q, n.existe q → n'.existe q)
    (hp' : n'.existe p) : n'.MarcosBien π := by
  have hcases : ∀ j q, n'.marcos j = some q → (j = k ∧ q = p) ∨ (j ≠ k ∧ n.marcos j = some q) := by
    intro j q hj
    rw [hmarcos] at hj
    by_cases hjk : j = k
    · subst hjk
      exact Or.inl ⟨rfl, by simpa using hj.symm⟩
    · exact Or.inr ⟨hjk, by rwa [Function.update_of_ne hjk] at hj⟩
  refine ⟨?_, ?_, ?_⟩
  · intro j q hj
    rcases hcases j q hj with ⟨rfl, -⟩ | ⟨-, hj⟩
    · exact hk
    · exact h.lt j q hj
  · intro j q hj
    rcases hcases j q hj with ⟨-, rfl⟩ | ⟨-, hj⟩
    · exact hp'
    · exact hexiste q (h.existe j q hj)
  · intro j j' q hj hj'
    rcases hcases j q hj with ⟨rfl, rfl⟩ | ⟨hjk, hj⟩ <;>
      rcases hcases j' q hj' with ⟨rfl, hq⟩ | ⟨hjk', hj'⟩
    · rfl
    · exact absurd hj' (hp j' hjk')
    · exact absurd (hq ▸ hj) (hp j hjk)
    · exact h.inj j j' q hj hj'

end MarcosBien

end Carpinchos.Memoria.Nucleo
