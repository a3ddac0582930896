import Mathlib.Data.List.Nodup
import Mathlib.Data.List.Perm.Subperm
import Mathlib.Data.Int.Notation
import Mathlib.Tactic.Linarith
import Carpinchos.Library.Outcome

/-!
# The detector of deadlocks

`comprobarDeadlock` follows the owners of the semaphores that the blocked carpinchos require,
and keeps the PIDs it goes through in a list that the turns of `chequearDeadlock` share. The
searches for a control block and for a semaphore leave out the last of their list. Where an
element of the list of PIDs is taken for a control block the thread stops. The PID of a
semaphore is taken as readable here.
-/

namespace Carpinchos.Kernel

open Outcome

/-- What stops the detector; `sinLlamadas` when no nested call is left to be made. -/
inductive Parada
  | punteroInvalido
  | sinLlamadas
  deriving DecidableEq, Repr

structure Bloqueado where
  pid : ℤ
  semaforoRequerido : Option String
  deriving DecidableEq, Repr

/-- What it reads of a semaphore; `pid` is its owner. -/
structure Recurso where
  nombreSem : String
  pid : ℤ
  deriving DecidableEq, Repr

structure Detector where
  processBlocked : List Bloqueado
  processReady : List Bloqueado
  semaforosKernel : List Recurso
  procesosEnDeadlock : List ℤ
  deriving DecidableEq, Repr

namespace Detector

section Funciones

variable (s : Detector)

def conseguirPcb (pid : ℤ) : Option Bloqueado :=
  s.processBlocked.dropLast.find? fun unPcb => unPcb.pid = pid

/-- A name that is not set is read when there is a semaphore to compare it with. -/
def conseguirSemaforo (semNombre : Option String) : Except Parada (Option Recurso) :=
  match semNombre with
  | some nombre => .ok (s.semaforosKernel.dropLast.find? fun unSem => unSem.nombreSem = nombre)
  | none => if s.semaforosKernel.dropLast = [] then .ok none else .error .punteroInvalido

/-- `reasignarProceso` when it is given no semaphore. -/
def reasignarProceso (unPID : ℤ) : Detector :=
  { s with processBlocked := s.processBlocked.map fun unPcb =>
      if unPcb.pid = unPID then { unPcb with semaforoRequerido := none } else unPcb }

/-- The loop of `pasarDeBloqueadoAReady`, with those that stay and those that go. The one after
a carpincho that goes is not looked at. -/
def separar (unPID : ℤ) : List Bloqueado → List Bloqueado × List Bloqueado
  | [] => ([], [])
  | [p] => if p.pid = unPID then ([], [p]) else ([p], [])
  | p :: q :: ps =>
    if p.pid = unPID then
      let r := separar unPID ps
      (q :: r.1, p :: r.2)
    else
      let r := separar unPID (q :: ps)
      (p :: r.1, r.2)

def pasarDeBloqueadoAReady (unPID : ℤ) : Detector :=
  let r := separar unPID s.processBlocked
  { s with processBlocked := r.1, processReady := s.processReady ++ r.2 }

def mayor : List ℤ → ℤ
  | [] => 0
  | x :: xs => xs.foldl max x

/-- `list_take_and_remove` of what stands before the first occurrence of this PID. -/
def desde (pid : ℤ) : List ℤ := s.procesosEnDeadlock.dropWhile fun iterador => iterador ≠ pid

/-- `comprobarDeadlock`, with a number of nested calls that may be made. What the nested call
returns is not used. -/
def comprobarDeadlock : ℕ → ℤ → Detector → Except Parada (ℤ × Detector)
  | 0, _, _ => .error .sinLlamadas
  | llamadas + 1, pid, s =>
    match s.conseguirPcb pid with
    | none =>
      if 2 ≤ s.procesosEnDeadlock.length then .error .punteroInvalido else .ok (0, s)
    | some unPcb => do
      match ← s.conseguirSemaforo unPcb.semaforoRequerido with
      | none => .ok (0, s.reasignarProceso unPcb.pid)
      | some unSemaforo =>
        if unPcb.pid = unSemaforo.pid then
          if s.procesosEnDeadlock ≠ [] then .error .punteroInvalido
          else .ok (0, s.pasarDeBloqueadoAReady unPcb.pid)
        else if unSemaforo.pid ∈ s.procesosEnDeadlock then
          .ok (mayor (s.desde unSemaforo.pid),
            { s with procesosEnDeadlock := s.desde unSemaforo.pid })
        else do
          let (_, s) ← comprobarDeadlock llamadas unSemaforo.pid
            { s with procesosEnDeadlock := s.procesosEnDeadlock ++ [unPcb.pid] }
          .ok (-1, s)

def sacarRecursos (unPID : ℤ) : Detector :=
  { s with semaforosKernel := s.semaforosKernel.map fun unSem =>
      if unSem.pid = unPID then { unSem with pid := -1 } else unSem }

/-- The loop of `terminarProceso`, which does not look at the last one either. -/
def quitarTerminados (unPID : ℤ) : List Bloqueado → List Bloqueado × List Bloqueado
  | [] => ([], [])
  | [p] => ([p], [])
  | p :: q :: ps =>
    if p.pid = unPID then
      let r := quitarTerminados unPID ps
      (q :: r.1, p :: r.2)
    else
      let r := quitarTerminados unPID (q :: ps)
      (p :: r.1, r.2)

/-- `terminarProceso`, with the carpinchos that it frees. -/
def terminarProceso (unPID : ℤ) : List Bloqueado × Detector :=
  let r := quitarTerminados unPID s.processBlocked
  if r.2 = [] then ([], s) else (r.2, { s.sacarRecursos unPID with processBlocked := r.1 })

def turno (i : ℕ) (s : Detector) : Except Parada (List Bloqueado × Detector) :=
  match s.processBlocked[i]? with
  | none => .error .punteroInvalido
  | some unPcb => do
    let (resultado, s) ← comprobarDeadlock (s.processBlocked.length + 1) unPcb.pid s
    if resultado ≠ 0 then .ok (s.terminarProceso resultado) else .ok ([], s)

def recorrer : ℕ → ℕ → Detector → Except Parada (List Bloqueado × Detector)
  | 0, i, s => if i < s.processBlocked.length - 1 then .error .sinLlamadas else .ok ([], s)
  | turnos + 1, i, s =>
    if i < s.processBlocked.length - 1 then do
      let (terminados, s) ← turno i s
      let (resto, s) ← recorrer turnos (i + 1) s
      .ok (terminados ++ resto, s)
    else .ok ([], s)

/-- A pass of `chequearDeadlock`, with the carpinchos that it terminates. -/
def chequearDeadlock : Except Parada (List Bloqueado × Detector) :=
  if s.processBlocked = [] then .ok ([], s)
  else recorrer s.processBlocked.length 0 { s with procesosEnDeadlock := [] }

end Funciones

section Llamadas

variable {s : Detector} {pid : ℤ} {unPcb : Bloqueado}

def visibles (s : Detector) : List ℤ := s.processBlocked.dropLast.map Bloqueado.pid

def conVisitado (s : Detector) (pid : ℤ) : Detector :=
  { s with procesosEnDeadlock := s.procesosEnDeadlock ++ [pid] }

/-- The PID of the owner of the semaphore that a carpincho requires. -/
def Requiere (s : Detector) (pid dueno : ℤ) : Prop :=
  ∃ unPcb unSemaforo, s.conseguirPcb pid = some unPcb ∧
    s.conseguirSemaforo unPcb.semaforoRequerido = .ok (some unSemaforo) ∧ unSemaforo.pid = dueno

/-- The call for a PID makes a nested call for the owner. -/
structure Sigue (s : Detector) (pid dueno : ℤ) : Prop where
  requiere : s.Requiere pid dueno
  ajeno : dueno ≠ pid
  nuevo : dueno ∉ s.procesosEnDeadlock

theorem conseguirPcb_eq_some (h : s.conseguirPcb pid = some unPcb) :
    unPcb.pid = pid ∧ pid ∈ s.visibles := by
  have hpid : unPcb.pid = pid := by simpa using List.find?_some h
  exact ⟨hpid, List.mem_map.2 ⟨unPcb, List.mem_of_find?_eq_some h, hpid⟩⟩

theorem conseguirSemaforo_error {semNombre : Option String} {e : Parada}
    (h : s.conseguirSemaforo semNombre = .error e) : e = .punteroInvalido := by
  unfold conseguirSemaforo at h
  cases semNombre with
  | some nombre => cases h
  | none =>
    dsimp only at h
    split at h
    · cases h
    · cases h
      rfl

theorem comprobarDeadlock_requiere {dueno : ℤ} (h : s.Requiere pid dueno) (llamadas : ℕ) :
    comprobarDeadlock (llamadas + 1) pid s =
      if pid = dueno then
        if s.procesosEnDeadlock ≠ [] then .error .punteroInvalido
        else .ok (0, s.pasarDeBloqueadoAReady pid)
      else if dueno ∈ s.procesosEnDeadlock then
        .ok (mayor (s.desde dueno), { s with procesosEnDeadlock := s.desde dueno })
      else (comprobarDeadlock llamadas dueno (s.conVisitado pid)).map fun r => (-1, r.2) := by
  obtain ⟨unPcb, unSemaforo, hpcb, hsem, rfl⟩ := h
  obtain ⟨rfl, -⟩ := conseguirPcb_eq_some hpcb
  rw [comprobarDeadlock]
  simp only [hpcb, hsem, ok_bind, conVisitado]
  cases comprobarDeadlock llamadas unSemaforo.pid _ with
  | error e => rfl
  | ok r => rfl

theorem comprobarDeadlock_sigue {dueno : ℤ} (h : s.Sigue pid dueno) (llamadas : ℕ) :
    comprobarDeadlock (llamadas + 1) pid s =
      (comprobarDeadlock llamadas dueno (s.conVisitado pid)).map fun r => (-1, r.2) := by
  rw [comprobarDeadlock_requiere h.requiere, if_neg h.ajeno.symm, if_neg h.nuevo]

/-- A call that makes no other one does not depend on how many it may make. -/
theorem comprobarDeadlock_sola (h : ∀ dueno, ¬ s.Sigue pid dueno) :
    comprobarDeadlock 1 pid s ≠ .error .sinLlamadas ∧
      ∀ llamadas, comprobarDeadlock (llamadas + 1) pid s = comprobarDeadlock 1 pid s := by
  simp only [comprobarDeadlock]
  cases hpcb : s.conseguirPcb pid with
  | none =>
    refine ⟨?_, fun _ => rfl⟩
    dsimp only
    split <;> simp
  | some unPcb =>
    obtain ⟨rfl, -⟩ := conseguirPcb_eq_some hpcb
    dsimp only
    cases hsem : s.conseguirSemaforo unPcb.semaforoRequerido with
    | error e =>
      rw [conseguirSemaforo_error hsem]
      exact ⟨by simp, fun _ => rfl⟩
    | ok r =>
      cases r with
      | none => exact ⟨by simp, fun _ => rfl⟩
      | some unSemaforo =>
        simp only [ok_bind]
        by_cases hpropio : unPcb.pid = unSemaforo.pid
        · simp only [if_pos hpropio]
          refine ⟨?_, fun _ => trivial⟩
          split <;> simp
        · simp only [if_neg hpropio]
          by_cases hvisto : unSemaforo.pid ∈ s.procesosEnDeadlock
          · simp only [if_pos hvisto]
            exact ⟨by simp, fun _ => trivial⟩
          · exact absurd ⟨⟨unPcb, unSemaforo, hpcb, hsem, rfl⟩, Ne.symm hpropio, hvisto⟩
              (h unSemaforo.pid)

/-- The PIDs of the calls so far are different ones of blocked carpinchos, all of them in the
list, so that there cannot be more of them than blocked carpinchos. -/
theorem comprobarDeadlock_alcanza {llamadas : ℕ} {seguidos : List ℤ} (hnodup : seguidos.Nodup)
    (hvisibles : seguidos ⊆ s.visibles) (hlista : seguidos ⊆ s.procesosEnDeadlock)
    (hpid : pid ∉ seguidos) (halcanza : s.visibles.length < llamadas + seguidos.length) :
    comprobarDeadlock llamadas pid s ≠ .error .sinLlamadas ∧
      ∀ extra, comprobarDeadlock (llamadas + extra) pid s = comprobarDeadlock llamadas pid s := by
  induction llamadas generalizing s pid seguidos with
  | zero =>
    have hcabe := (hnodup.subperm hvisibles).length_le
    omega
  | succ llamadas ih =>
    by_cases hsigue : ∃ dueno, s.Sigue pid dueno
    · obtain ⟨dueno, hsigue⟩ := hsigue
      obtain ⟨⟨unPcb, unSemaforo, hpcb, -, -⟩, hajeno, hnuevo⟩ := id hsigue
      have hvisible := (conseguirPcb_eq_some hpcb).2
      have hlista' : pid :: seguidos ⊆ (s.conVisitado pid).procesosEnDeadlock := by
        refine List.cons_subset.2 ⟨List.mem_append_right _ (List.mem_singleton_self _), ?_⟩
        exact fun q hq => List.mem_append_left _ (hlista hq)
      have hdueno : dueno ∉ pid :: seguidos := by
        rw [List.mem_cons, not_or]
        exact ⟨hajeno, fun hq => hnuevo (hlista hq)⟩
      obtain ⟨hno, hextra⟩ := ih (s := s.conVisitado pid) (List.nodup_cons.2 ⟨hpid, hnodup⟩)
        (List.cons_subset.2 ⟨hvisible, hvisibles⟩) hlista' hdueno (by
          show s.visibles.length < _
          rw [List.length_cons]
          omega)
      refine ⟨?_, fun extra => ?_⟩
      · rw [comprobarDeadlock_sigue hsigue]
        cases hresto : comprobarDeadlock llamadas dueno (s.conVisitado pid) with
        | error e =>
          rw [hresto] at hno
          exact fun heq => hno heq
        | ok r => exact fun heq => by cases heq
      · rw [Nat.add_right_comm, comprobarDeadlock_sigue hsigue, comprobarDeadlock_sigue hsigue,
          hextra]
    · rw [not_exists] at hsigue
      obtain ⟨hno, hsola⟩ := comprobarDeadlock_sola hsigue
      refine ⟨by rwa [hsola], fun extra => ?_⟩
      rw [Nat.add_right_comm, hsola, hsola llamadas]

theorem comprobarDeadlock_basta (s : Detector) (pid : ℤ) {llamadas : ℕ}
    (halcanza : s.processBlocked.length < llamadas) :
    comprobarDeadlock llamadas pid s ≠ .error .sinLlamadas ∧
      ∀ extra, comprobarDeadlock (llamadas + extra) pid s = comprobarDeadlock llamadas pid s := by
  refine comprobarDeadlock_alcanza List.nodup_nil (List.nil_subset _) (List.nil_subset _)
    List.not_mem_nil ?_
  rw [visibles, List.length_map, List.length_dropLast, List.length_nil]
  omega

/-- `comprobarDeadlock` ends with no more nested calls than blocked carpinchos and one, for
every list of PIDs that it starts with and whatever cycles the owners make. -/
theorem comprobarDeadlock_termina (s : Detector) (pid : ℤ) :
    comprobarDeadlock (s.processBlocked.length + 1) pid s ≠ .error .sinLlamadas ∧
      ∀ extra, comprobarDeadlock (s.processBlocked.length + 1 + extra) pid s =
        comprobarDeadlock (s.processBlocked.length + 1) pid s :=
  comprobarDeadlock_basta s pid (Nat.lt_succ_self _)

end Llamadas

end Detector

end Carpinchos.Kernel
