import Mathlib.Logic.Relation
import Carpinchos.Kernel.Detector

/-!
# What a pass of the detector finds

A carpincho waits for the owner of the semaphore that it requires, and a deadlock is a cycle of
this relation. A turn of `chequearDeadlock` terminates somebody only when the owner that its own
carpincho waits for is in the list of PIDs already, which then is the greatest PID from there
on, or when it has made a nested call, whose result -1 is taken for a PID. The list is shared by
all turns of the pass, so that being in it is neither necessary nor sufficient for a cycle.
-/

namespace Carpinchos.Kernel

open Outcome

namespace Detector

section Definiciones

/-- A blocked carpincho waits for the owner of a semaphore. -/
def Espera (s : Detector) (pid dueno : ℤ) : Prop :=
  ∃ p ∈ s.processBlocked, p.pid = pid ∧
    ∃ sem ∈ s.semaforosKernel, p.semaforoRequerido = some sem.nombreSem ∧ sem.pid = dueno

def EnCiclo (s : Detector) (pid : ℤ) : Prop := Relation.TransGen s.Espera pid pid

/-- A pass ends, terminates only carpinchos of a cycle, and one of them if there is a cycle. -/
def DetectaBien (s : Detector) : Prop :=
  ∃ terminados s', s.chequearDeadlock = .ok (terminados, s') ∧
    (∀ p ∈ terminados, s.EnCiclo p.pid) ∧
    ((∃ pid, s.EnCiclo pid) → ∃ p ∈ terminados, s.EnCiclo p.pid)

/-- The PID that a turn for this carpincho hands to `terminarProceso`, if it is not 0. -/
inductive Objetivo (s : Detector) (pid : ℤ) : ℤ → Prop
  | visto {dueno : ℤ} (h : s.Requiere pid dueno) (hajeno : dueno ≠ pid)
      (hvisto : dueno ∈ s.procesosEnDeadlock) : Objetivo s pid (mayor (s.desde dueno))
  | sigue {dueno : ℤ} (h : s.Sigue pid dueno) : Objetivo s pid (-1)

structure Termina (s : Detector) (pid unPID : ℤ) : Prop where
  objetivo : s.Objetivo pid unPID
  noCero : unPID ≠ 0
  visible : unPID ∈ s.visibles

/-- The turns that follow from one, with the states before them. -/
inductive Llega : ℕ → Detector → ℕ → Detector → Prop
  | aqui (i : ℕ) (s : Detector) : Llega i s i s
  | sigue {i j : ℕ} {s s' t : Detector} {terminados : List Bloqueado}
      (hi : i < s.processBlocked.length - 1) (h : turno i s = .ok (terminados, s'))
      (hresto : Llega (i + 1) s' j t) : Llega i s j t

/-- The pass has a turn for a carpincho with this PID, in this state. -/
def Turno (s : Detector) (pid : ℤ) (t : Detector) : Prop :=
  ∃ i p, Llega 0 { s with procesosEnDeadlock := [] } i t ∧
    t.processBlocked.dropLast[i]? = some p ∧ p.pid = pid

end Definiciones

section Llamadas

variable {s s' : Detector} {pid dueno : ℤ} {llamadas : ℕ} {r : ℤ × Detector}

theorem conVisitado_ne_nil (s : Detector) (pid : ℤ) :
    (s.conVisitado pid).procesosEnDeadlock ≠ [] :=
  List.append_ne_nil_of_right_ne_nil _ (List.cons_ne_nil _ _)

inductive Fin (llamadas : ℕ) (s : Detector) (pid : ℤ) : ℤ → Detector → Prop
  | ausente (h : s.conseguirPcb pid = none) (hlista : s.procesosEnDeadlock.length < 2) :
      Fin llamadas s pid 0 s
  | sinSemaforo {unPcb : Bloqueado} (h : s.conseguirPcb pid = some unPcb)
      (hsem : s.conseguirSemaforo unPcb.semaforoRequerido = .ok none) :
      Fin llamadas s pid 0 (s.reasignarProceso pid)
  | propio (h : s.Requiere pid pid) (hlista : s.procesosEnDeadlock = []) :
      Fin llamadas s pid 0 (s.pasarDeBloqueadoAReady pid)
  | visto {dueno : ℤ} (h : s.Requiere pid dueno) (hajeno : dueno ≠ pid)
      (hvisto : dueno ∈ s.procesosEnDeadlock) : Fin llamadas s pid (mayor (s.desde dueno))
        { s with procesosEnDeadlock := s.desde dueno }
  | sigue {dueno r : ℤ} {s' : Detector} (h : s.Sigue pid dueno)
      (hresto : comprobarDeadlock llamadas dueno (s.conVisitado pid) = .ok (r, s')) :
      Fin llamadas s pid (-1) s'

theorem comprobarDeadlock_fin {resultado : ℤ}
    (h : comprobarDeadlock (llamadas + 1) pid s = .ok (resultado, s')) :
    Fin llamadas s pid resultado s' := by
  by_cases hrequiere : ∃ dueno, s.Requiere pid dueno
  · obtain ⟨dueno, hrequiere⟩ := hrequiere
    rw [comprobarDeadlock_requiere hrequiere] at h
    by_cases hpropio : pid = dueno
    · subst hpropio
      rw [if_pos rfl] at h
      split at h
      · cases h
      · next hlista =>
        cases h
        exact .propio hrequiere (not_not.1 hlista)
    · rw [if_neg hpropio] at h
      by_cases hvisto : dueno ∈ s.procesosEnDeadlock
      · rw [if_pos hvisto] at h
        cases h
        exact .visto hrequiere (Ne.symm hpropio) hvisto
      · rw [if_neg hvisto] at h
        cases hresto : comprobarDeadlock llamadas dueno (s.conVisitado pid) with
        | error e =>
          rw [hresto] at h
          cases h
        | ok r =>
          rw [hresto] at h
          cases h
          exact .sigue ⟨hrequiere, Ne.symm hpropio, hvisto⟩ hresto
  · rw [comprobarDeadlock] at h
    cases hpcb : s.conseguirPcb pid with
    | none =>
      rw [hpcb] at h
      dsimp only at h
      split at h
      · cases h
      · next hlista =>
        cases h
        exact .ausente hpcb (not_le.1 hlista)
    | some unPcb =>
      rw [hpcb] at h
      obtain ⟨sem, hsem, h⟩ := bind_eq_ok.1 h
      cases sem with
      | none =>
        cases h
        obtain ⟨rfl, -⟩ := conseguirPcb_eq_some hpcb
        exact .sinSemaforo hpcb hsem
      | some unSemaforo => exact absurd ⟨_, unPcb, unSemaforo, hpcb, hsem, rfl⟩ hrequiere

end Llamadas

section Terminados

variable {s s' : Detector} {pid dueno unPID : ℤ} {llamadas i : ℕ} {ps : List Bloqueado}
  {p : Bloqueado}

theorem pid_of_mem_quitarTerminados (h : p ∈ (quitarTerminados unPID ps).2) : p.pid = unPID := by
  induction ps using quitarTerminados.induct unPID with
  | case1 => cases h
  | case2 p => cases h
  | case3 q q' ps hq ih =>
    simp only [quitarTerminados, if_pos hq, List.mem_cons] at h
    rcases h with rfl | h
    · exact hq
    · exact ih h
  | case4 q q' ps hq ih =>
    simp only [quitarTerminados, if_neg hq] at h
    exact ih h

theorem quitarTerminados_eq_nil :
    (quitarTerminados unPID ps).2 = [] ↔ unPID ∉ ps.dropLast.map Bloqueado.pid := by
  induction ps using quitarTerminados.induct unPID with
  | case1 => simp [quitarTerminados]
  | case2 p => simp [quitarTerminados]
  | case3 p q ps hp ih => simp [quitarTerminados, hp]
  | case4 p q ps hp ih =>
    simp only [quitarTerminados, if_neg hp, List.dropLast_cons_cons, List.map_cons, List.mem_cons,
      Ne.symm hp, false_or]
    exact ih

theorem terminarProceso_pids (s : Detector) (unPID pid : ℤ) :
    (∃ p ∈ (s.terminarProceso unPID).1, p.pid = pid) ↔ pid = unPID ∧ unPID ∈ s.visibles := by
  have hnil : (quitarTerminados unPID s.processBlocked).2 = [] ↔ unPID ∉ s.visibles :=
    quitarTerminados_eq_nil
  unfold terminarProceso
  dsimp only
  split
  · next hvacia =>
    refine iff_of_false ?_ fun h => hnil.1 hvacia h.2
    rintro ⟨p, hp, -⟩
    cases hp
  · next hocupada =>
    have hvisible : unPID ∈ s.visibles := by
      by_contra hno
      exact hocupada (hnil.2 hno)
    constructor
    · rintro ⟨p, hp, rfl⟩
      exact ⟨pid_of_mem_quitarTerminados hp, hvisible⟩
    · rintro ⟨rfl, -⟩
      obtain ⟨p, hp⟩ := List.exists_mem_of_ne_nil _ hocupada
      exact ⟨p, hp, pid_of_mem_quitarTerminados hp⟩

end Terminados

section Turnos

variable {s s' : Detector} {pid dueno unPID resultado : ℤ} {llamadas i : ℕ} {p : Bloqueado}
  {terminados : List Bloqueado}

theorem visibles_reasignarProceso (s : Detector) (unPID : ℤ) :
    (s.reasignarProceso unPID).visibles = s.visibles := by
  unfold visibles reasignarProceso
  dsimp only
  rw [← List.map_dropLast, List.map_map]
  refine List.map_congr_left fun p _ => ?_
  simp only [Function.comp_apply]
  split <;> rfl

theorem comprobarDeadlock_bloqueados (hno : s.procesosEnDeadlock ≠ [])
    (h : comprobarDeadlock llamadas pid s = .ok (resultado, s')) : s'.visibles = s.visibles := by
  induction llamadas generalizing s pid resultado with
  | zero => cases h
  | succ llamadas ih =>
    cases comprobarDeadlock_fin h with
    | ausente => rfl
    | sinSemaforo => exact visibles_reasignarProceso _ _
    | propio _ hlista => exact absurd hlista hno
    | visto => rfl
    | sigue _ hresto =>
      have hvisibles := ih (conVisitado_ne_nil s pid) hresto
      exact hvisibles

/-- What a call returns, if it is not 0, is the PID that its turn hands to `terminarProceso`. -/
theorem comprobarDeadlock_objetivo (hno : unPID ≠ 0)
    (h : comprobarDeadlock llamadas pid s = .ok (resultado, s')) :
    s.Objetivo pid unPID ↔ resultado = unPID := by
  cases llamadas with
  | zero => cases h
  | succ llamadas =>
    constructor
    · intro hobjetivo
      cases hobjetivo with
      | visto hrequiere hajeno hvisto =>
        rw [comprobarDeadlock_requiere hrequiere, if_neg hajeno.symm, if_pos hvisto] at h
        cases h
        rfl
      | sigue hsigue =>
        rw [comprobarDeadlock_sigue hsigue] at h
        cases hresto : comprobarDeadlock llamadas _ (s.conVisitado pid) with
        | error e =>
          rw [hresto] at h
          cases h
        | ok r =>
          rw [hresto] at h
          cases h
          rfl
    · rintro rfl
      cases comprobarDeadlock_fin h with
      | ausente => exact absurd rfl hno
      | sinSemaforo => exact absurd rfl hno
      | propio => exact absurd rfl hno
      | visto hrequiere hajeno hvisto => exact .visto hrequiere hajeno hvisto
      | sigue hsigue => exact .sigue hsigue

theorem comprobarDeadlock_visibles (hno : resultado ≠ 0)
    (h : comprobarDeadlock llamadas pid s = .ok (resultado, s')) : s'.visibles = s.visibles := by
  cases llamadas with
  | zero => cases h
  | succ llamadas =>
    cases comprobarDeadlock_fin h with
    | ausente => exact absurd rfl hno
    | sinSemaforo => exact absurd rfl hno
    | propio => exact absurd rfl hno
    | visto => rfl
    | sigue _ hresto =>
      have hvisibles := comprobarDeadlock_bloqueados (conVisitado_ne_nil s pid) hresto
      exact hvisibles

theorem turno_termina (hp : s.processBlocked[i]? = some p)
    (h : turno i s = .ok (terminados, s')) (unPID : ℤ) :
    (∃ q ∈ terminados, q.pid = unPID) ↔ s.Termina p.pid unPID := by
  rw [turno, hp] at h
  obtain ⟨⟨resultado, s₁⟩, hcomprobar, h⟩ := bind_eq_ok.1 h
  have hobjetivo : ∀ u, u ≠ 0 → (s.Objetivo p.pid u ↔ resultado = u) := fun u hu =>
    comprobarDeadlock_objetivo hu hcomprobar
  dsimp only at h
  split at h
  · next hno =>
    have hterminados : terminados = (s₁.terminarProceso resultado).1 := by
      rw [Except.ok.inj h]
    rw [hterminados, terminarProceso_pids, comprobarDeadlock_visibles hno hcomprobar]
    constructor
    · rintro ⟨rfl, hvisible⟩
      exact ⟨(hobjetivo _ hno).2 rfl, hno, hvisible⟩
    · rintro ⟨hobj, hcero, hvisible⟩
      obtain rfl := (hobjetivo _ hcero).1 hobj
      exact ⟨rfl, hvisible⟩
  · next hcero =>
    cases h
    refine iff_of_false (fun hq => ?_) fun hq => ?_
    · obtain ⟨q, hq, -⟩ := hq
      cases hq
    · exact hcero (((hobjetivo _ hq.noCero).1 hq.objetivo) ▸ hq.noCero)

end Turnos

section Pasada

variable {s s' t : Detector} {pid : ℤ} {turnos i j : ℕ} {p : Bloqueado}
  {terminados : List Bloqueado}

theorem recorrer_fin (hi : ¬ i < s.processBlocked.length - 1) :
    recorrer turnos i s = .ok ([], s) := by
  cases turnos with
  | zero => rw [recorrer, if_neg hi]
  | succ turnos => rw [recorrer, if_neg hi]

/-- A loop that ends has made its turn and the rest. -/
theorem recorrer_turno (hi : i < s.processBlocked.length - 1)
    (h : recorrer turnos i s = .ok (terminados, s')) :
    ∃ quedan deEste s₁ resto, turno i s = .ok (deEste, s₁) ∧
      recorrer quedan (i + 1) s₁ = .ok (resto, s') ∧ terminados = deEste ++ resto := by
  cases turnos with
  | zero =>
    rw [recorrer, if_pos hi] at h
    cases h
  | succ quedan =>
    rw [recorrer, if_pos hi] at h
    obtain ⟨⟨deEste, s₁⟩, hturno, h⟩ := bind_eq_ok.1 h
    obtain ⟨⟨resto, s₂⟩, hresto, h⟩ := bind_eq_ok.1 h
    cases h
    exact ⟨quedan, deEste, s₁, resto, hturno, hresto, rfl⟩

theorem recorrer_mem (h : recorrer turnos i s = .ok (terminados, s')) (hp : p ∈ terminados) :
    ∃ j t deEste t', Llega i s j t ∧ j < t.processBlocked.length - 1 ∧
      turno j t = .ok (deEste, t') ∧ p ∈ deEste := by
  induction turnos generalizing i s terminados with
  | zero =>
    by_cases hi : i < s.processBlocked.length - 1
    · rw [recorrer, if_pos hi] at h
      cases h
    · rw [recorrer_fin hi] at h
      cases h
      cases hp
  | succ turnos ih =>
    by_cases hi : i < s.processBlocked.length - 1
    · rw [recorrer, if_pos hi] at h
      obtain ⟨⟨deEste, s₁⟩, hturno, h⟩ := bind_eq_ok.1 h
      obtain ⟨⟨resto, s₂⟩, hresto, h⟩ := bind_eq_ok.1 h
      cases h
      rcases List.mem_append.1 hp with hp | hp
      · exact ⟨i, s, deEste, s₁, .aqui i s, hi, hturno, hp⟩
      · obtain ⟨j, t, deOtro, t', hllega, hj, hotro, hp⟩ := ih hresto hp
        exact ⟨j, t, deOtro, t', .sigue hi hturno hllega, hj, hotro, hp⟩
    · rw [recorrer_fin hi] at h
      cases h
      cases hp

theorem getElem?_dropLast_eq_some {ps : List Bloqueado} :
    ps.dropLast[i]? = some p ↔ i < ps.length - 1 ∧ ps[i]? = some p := by
  rw [List.getElem?_dropLast]
  by_cases hi : i < ps.length - 1
  · rw [if_pos hi, and_iff_right hi]
  · rw [if_neg hi]
    exact iff_of_false (Option.some_ne_none p).symm fun h => hi h.1

theorem turno_of_llega {inicio : Detector}
    (hllega : Llega 0 { inicio with procesosEnDeadlock := [] } i t)
    (hi : i < t.processBlocked.length - 1) :
    ∃ p, t.processBlocked[i]? = some p ∧ inicio.Turno p.pid t := by
  have hlargo : i < t.processBlocked.length := by omega
  have hp := List.getElem?_eq_getElem hlargo
  exact ⟨_, hp, i, _, hllega, getElem?_dropLast_eq_some.2 ⟨hi, hp⟩, rfl⟩

/-- The pass is the loop, also when nobody is blocked. -/
theorem chequearDeadlock_ok : (∃ s', s.chequearDeadlock = .ok (terminados, s')) ↔
    ∃ s', recorrer s.processBlocked.length 0 { s with procesosEnDeadlock := [] } =
      .ok (terminados, s') := by
  rw [chequearDeadlock]
  split
  · next hvacia =>
    rw [recorrer_fin (by simp [hvacia])]
    constructor
    · rintro ⟨s', h⟩
      cases h
      exact ⟨_, rfl⟩
    · rintro ⟨s', h⟩
      cases h
      exact ⟨_, rfl⟩
  · exact Iff.rfl

/-- Two carpinchos, each with the semaphore that the other one requires, and one more
semaphore. -/
def abrazo : Detector where
  processBlocked := [⟨1, some "S"⟩, ⟨2, some "T"⟩]
  processReady := []
  semaforosKernel := [⟨"S", 2⟩, ⟨"T", 1⟩, ⟨"U", 0⟩]
  procesosEnDeadlock := []

end Pasada

end Detector

end Carpinchos.Kernel
