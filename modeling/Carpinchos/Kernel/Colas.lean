import Carpinchos.Kernel.Pendientes

/-!
# The queues of the kernel

The same threads with each queue move taken as one step. A control block goes from one
queue to the next at once, so the counters and the locks of the threads do not appear, and
a move may come after any other. The pointer that `buscarCPULibre` follows before it has a
value is an input of the step.
-/

namespace Carpinchos.Kernel

open Outcome

inductive Lugar
  | new
  | ready
  | cpu (c : ℕ)
  | blocked
  | suspendedBlocked
  | suspendedReady
  | exit
  deriving DecidableEq, Repr

/-- A queue move, or a write to a control block between two of them. -/
inductive Movida
  | llegada (pid : ℤ)
  | admision
  /-- the position in READY of the smallest estimate; where the pointer without a value
  is found to be FREE -/
  | despachoSjf (elegido : ℕ) (punteroLibre : Bool)
  | despachoHrrn (elegido : ℕ)
  /-- every operation on a semaphore notes it in the control block -/
  | nota (c : ℕ) (nombre : String)
  | bloqueoWait (c : ℕ)
  | post (nombre : String)
  | pedidoIo (c : ℕ)
  | finIo
  | suspension
  | terminacion (pid : ℤ)
  | reposicion (pid : ℤ)
  | finalizacion (c : ℕ)
  | liberacion
  deriving DecidableEq, Repr

namespace Estado

section Colas

variable (k : Estado)

def cola : Lugar → List ℕ
  | .new => k.processNew
  | .ready => k.processReady
  | .cpu c => if (k.cpusExec c).libre then [] else [(k.cpusExec c).pcbCarpincho]
  | .blocked => k.processBlocked
  | .suspendedBlocked => k.processSuspendedBlocked
  | .suspendedReady => k.processSuspendedReady
  | .exit => k.processExit

def Vivo (p : ℕ) : Prop := (k.pcbs p).isSome

def tienePid (pid : ℤ) (p : ℕ) : Bool := (k.pcbs p).any fun pcb => pcb.pid = pid

end Colas

section Movidas

def enCpu (k : Estado) (c : ℕ) : Except Falla ℕ :=
  if (k.cpusExec c).libre then .error .noHabilitado else .ok (k.cpusExec c).pcbCarpincho

/-- `planificadorLargoPlazo`. -/
def admitir (k : Estado) : Except Falla Estado :=
  if k.processNew ≠ [] ∧ k.processSuspendedReady = [] then do
    let (p, processNew) ← queuePop k.processNew
    .ok { k with processNew := processNew, processReady := k.processReady ++ [p] }
  else .ok k

/-- `planificarPorSJFSinDesalojo`. Where `buscarCPULibre` does not enter its loop it gives
no CPU, and `asignarCPU` does nothing. -/
def despacharSjf (cfg : Config) (k : Estado) (elegido : ℕ) (punteroLibre : Bool) :
    Except Falla Estado := do
  let (p, k) ← k.elDeMenorSJF elegido
  let k ← k.conStatus p .exec
  if punteroLibre then .ok k else k.asignarCPU cfg p

/-- `planificarPorHRRN`: the carpincho stays in READY. -/
def despacharHrrn (k : Estado) (elegido : ℕ) : Except Falla Estado := do
  let p ← listGet k.processReady elegido
  k.conStatus p .exec

def notar (k : Estado) (c : ℕ) (nombre : String) : Except Falla Estado := do
  let p ← k.enCpu c
  let pcb ← k.leerPcb p
  .ok (k.conPcb p { pcb with semaforoRequerido := some nombre })

/-- `restarSem` when there is no unit. -/
def bloquearPorSemaforo (k : Estado) (c : ℕ) : Except Falla Estado := do
  let p ← k.enCpu c
  let k ← k.conStatus p .blocked
  .ok ({ k with processBlocked := k.processBlocked ++ [p] }.soltarCpu c)

/-- `ejecutarCarpincho`, case IO. -/
def bloquearPorIo (k : Estado) (c : ℕ) : Except Falla Estado := do
  let p ← k.enCpu c
  let pcb ← k.leerPcb p
  let k := (k.conPcb p { pcb with status := .blocked, ioFinished := true }).encolarIo pcb.pid
  .ok ({ k with processBlocked := k.processBlocked ++ [p] }.soltarCpu c)

/-- `planificadorIO`, with the burst. -/
def terminarIo (k : Estado) : Except Falla Estado :=
  match k.colaIO with
  | [] => .error .noHabilitado
  | pid :: colaIO => { k with colaIO := colaIO }.desbloquearPID pid

/-- `planificadorMedianoPlazo`. -/
def suspender (k : Estado) : Except Falla Estado :=
  if k.processReady = [] ∧ k.processBlocked ≠ [] ∧ k.processNew ≠ [] then do
    let p ← listGet k.processBlocked (k.processBlocked.length - 1)
    .ok { k with
      processBlocked := k.processBlocked.eraseIdx (k.processBlocked.length - 1)
      processSuspendedBlocked := k.processSuspendedBlocked ++ [p] }
  else .ok k

/-- The loop of `terminarProceso` and `pasarDeBloqueadoAReady`: each control block with
this PID is taken out of the list, and the one that takes its place is passed over. -/
def barrer (pid : ℤ) (accion : Estado → ℕ → Estado) :
    Estado → List ℕ → Except Falla (List ℕ × Estado)
  | k, [] => .ok ([], k)
  | k, [p] => do
    let pcb ← k.leerPcb p
    if pcb.pid = pid then .ok ([], accion k p) else .ok ([p], k)
  | k, p :: q :: ps => do
    let pcb ← k.leerPcb p
    if pcb.pid = pid then
      let (resto, k) ← barrer pid accion (accion k p) ps
      .ok (q :: resto, k)
    else
      let (resto, k) ← barrer pid accion k (q :: ps)
      .ok (p :: resto, k)

def liberarPcb (k : Estado) (p : ℕ) : Estado :=
  { k with pcbs := Function.update k.pcbs p none }

/-- `terminarProceso`, which leaves out the last blocked carpincho. -/
def terminarProceso (k : Estado) (pid : ℤ) : Except Falla Estado := do
  let ultimo := k.processBlocked.length - 1
  let (resto, k') ← barrer pid liberarPcb k (k.processBlocked.take ultimo)
  .ok { k' with processBlocked := resto ++ k.processBlocked.drop ultimo }

def agregarReady (k : Estado) (p : ℕ) : Estado := { k with processReady := k.processReady ++ [p] }

def pasarDeBloqueadoAReady (k : Estado) (pid : ℤ) : Except Falla Estado := do
  let (resto, k') ← barrer pid agregarReady k k.processBlocked
  .ok { k' with processBlocked := resto }

/-- `ejecutarCarpincho`, case FINALIZACION. -/
def finalizar (k : Estado) (c : ℕ) : Except Falla Estado := do
  let p ← k.enCpu c
  let k ← k.conStatus p .finished
  .ok ({ k with processExit := k.processExit ++ [p] }.soltarCpu c)

/-- `finalizarProceso`. -/
def liberar (k : Estado) : Except Falla Estado :=
  match k.processExit with
  | [] => .ok k
  | p :: processExit => do
    let _ ← k.leerPcb p
    .ok { k.liberarPcb p with processExit := processExit }

def mover (cfg : Config) : Movida → Estado → Except Falla Estado
  | .llegada pid, k => .ok (k.llegada pid)
  | .admision, k => k.admitir
  | .despachoSjf elegido punteroLibre, k => k.despacharSjf cfg elegido punteroLibre
  | .despachoHrrn elegido, k => k.despacharHrrn elegido
  | .nota c nombre, k => k.notar c nombre
  | .bloqueoWait c, k => k.bloquearPorSemaforo c
  | .post nombre, k => do
    let (_, k) ← k.desbloquearProcesoPorSemaforo nombre
    .ok k
  | .pedidoIo c, k => k.bloquearPorIo c
  | .finIo, k => k.terminarIo
  | .suspension, k => k.suspender
  | .terminacion pid, k => k.terminarProceso pid
  | .reposicion pid, k => k.pasarDeBloqueadoAReady pid
  | .finalizacion c, k => k.finalizar c
  | .liberacion, k => k.liberar

def pasoMovida (cfg : Config) (m : Movida) (k : Estado) : Except Falla (Unit × Estado) := do
  .ok ((), ← mover cfg m k)

end Movidas

end Estado

end Carpinchos.Kernel
