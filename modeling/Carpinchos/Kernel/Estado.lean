import Mathlib.Data.Int.Notation
import Mathlib.Logic.Function.Basic
import Carpinchos.Library.Outcome

/-!
# The state of the kernel

The kernel keeps the control blocks of the carpinchos in queues, one for each state of
the planning diagram, and the semaphores they share in a list. Control blocks and
semaphores are heap objects named by their address, since several threads hold
pointers to them. Each thread carries the place it has reached between two of its
shared accesses.
-/

namespace Carpinchos.Kernel

/-- What stops a thread: `noHabilitado` when it has to wait for another one, and a
fault of the program otherwise. -/
inductive Falla
  | noHabilitado
  | punteroInvalido
  | indiceInvalido
  | desbordamiento
  deriving DecidableEq, Repr

inductive Status
  | new
  | ready
  | blocked
  | exec
  | suspended
  | finished
  deriving DecidableEq, Repr

/-- A control block. `semaforoRequerido` is not initialised when it is created. -/
structure Pcb where
  pid : ℤ
  semaforoRequerido : Option String
  ioFinished : Bool
  status : Status
  deriving DecidableEq, Repr

structure SemKernel where
  valor : ℤ
  nombre : String
  deriving DecidableEq, Repr

inductive Operation
  | init
  | wait
  | post
  | destroy
  | invalida
  deriving DecidableEq, Repr

structure Semaforo where
  operacion : Operation
  nombreSem : String
  valor : ℤ
  deriving DecidableEq, Repr

/-- The messages of a carpincho, by their type. -/
inductive Pedido
  | memoria
  | io (nombre : String)
  | semaforo (sema : Semaforo)
  | finalizacion
  | invalido
  deriving DecidableEq, Repr

/-- Where the thread of a CPU stands in `ejecutarCarpincho`. -/
inductive Etapa
  | esperando
  | asignada
  | ciclo
  /-- `IO_finished` has been found set -/
  | respondiendoIo
  /-- the answer has been sent, and `IO_finished` is about to be cleared -/
  | limpiandoIo
  | recibiendo
  | bloqueandoPorIo
  | creandoSemaforo (nombre : String) (valor : ℤ)
  | restandoSemaforo (d : ℕ)
  | bloqueandoPorSemaforo
  | desbloqueando (nombre : String)
  | reasignando (nombre : String) (d : ℕ)
  deriving DecidableEq, Repr

structure Cpu where
  libre : Bool
  pcbCarpincho : ℕ
  etapa : Etapa
  deriving DecidableEq, Repr

inductive LargoPlazo
  | esperandoNuevo
  | esperandoLugar
  | agregado
  | durmiendo
  deriving DecidableEq, Repr

inductive CortoPlazo
  | esperandoListo
  | esperandoPlanificar
  | asignando (p : ℕ)
  deriving DecidableEq, Repr

inductive Algoritmo
  | sjf
  | hrrn
  deriving DecidableEq, Repr

structure Config where
  gradoMultiprogramacion : ℕ
  gradoMultiprocesamiento : ℕ
  algoritmoPlanificacion : Algoritmo

structure Estado where
  pcbs : ℕ → Option Pcb
  semaforos : ℕ → Option SemKernel
  /-- the next free address -/
  proxima : ℕ
  semaforosKernel : List ℕ
  processNew : List ℕ
  processReady : List ℕ
  processBlocked : List ℕ
  processSuspendedBlocked : List ℕ
  processSuspendedReady : List ℕ
  processExit : List ℕ
  cpusExec : ℕ → Cpu
  /-- the carpinchos in the queue of IO requests -/
  colaIO : List ℤ
  /-- the carpincho whose IO burst is running -/
  rafagaIO : Option ℤ
  largoPlazo : LargoPlazo
  cortoPlazo : CortoPlazo
  planificacion : ℤ
  uso : Bool
  /-- `m_colaSuspendedBlocked` is locked -/
  colaSuspendedBlockedTomada : Bool
  procesoNuevo : ℕ
  puedeEntrarAlSistema : ℕ
  cantidadCarpinchosEnReady : ℕ
  planificar : ℕ
  planifMedianoPlazo : ℕ
  ejecutarIO : ℕ
  semFinalizarProceso : ℕ
  suspendidoAReady : ℕ

/-- What the threads do that can be seen from outside, and the operations on the
semaphores of the kernel. -/
inductive Suceso
  /-- the 0 that `deserializar_instancia` sends when `main` reads an INICIALIZACION -/
  | iniciado (p : ℕ)
  | respuesta (p : ℕ) (valor : ℤ)
  | pedidoAMemoria (p : ℕ)
  | finalizacionCarpincho (pid : ℤ)
  | restado (d : ℕ)
  | sumado (d : ℕ)
  | desbloqueado (nombre : String) (p : ℕ)
  deriving DecidableEq, Repr

def inicial (cfg : Config) : Estado where
  pcbs := fun _ => none
  semaforos := fun _ => none
  proxima := 0
  semaforosKernel := []
  processNew := []
  processReady := []
  processBlocked := []
  processSuspendedBlocked := []
  processSuspendedReady := []
  processExit := []
  cpusExec := fun _ => ⟨true, 0, .esperando⟩
  colaIO := []
  rafagaIO := none
  largoPlazo := .esperandoNuevo
  cortoPlazo := .esperandoListo
  planificacion := 0
  uso := false
  colaSuspendedBlockedTomada := false
  procesoNuevo := 0
  puedeEntrarAlSistema := cfg.gradoMultiprogramacion
  cantidadCarpinchosEnReady := 0
  planificar := 1
  planifMedianoPlazo := 0
  ejecutarIO := 0
  semFinalizarProceso := 0
  suspendidoAReady := 0

/-- `sem_wait`: a thread goes on only when the counter is positive. -/
def semWait : ℕ → Except Falla ℕ
  | 0 => .error .noHabilitado
  | n + 1 => .ok n

def listGet {α : Type} (lista : List α) (i : ℕ) : Except Falla α :=
  match lista[i]? with
  | some a => .ok a
  | none => .error .indiceInvalido

namespace Estado

variable (k : Estado)

def leerPcb (p : ℕ) : Except Falla Pcb :=
  match k.pcbs p with
  | some pcb => .ok pcb
  | none => .error .punteroInvalido

def leerSemaforo (d : ℕ) : Except Falla SemKernel :=
  match k.semaforos d with
  | some sem => .ok sem
  | none => .error .punteroInvalido

def conPcb (p : ℕ) (pcb : Pcb) : Estado :=
  { k with pcbs := Function.update k.pcbs p (some pcb) }

def conStatus (p : ℕ) (status : Status) : Except Falla Estado := do
  let pcb ← k.leerPcb p
  .ok (k.conPcb p { pcb with status := status })

def conCpu (c : ℕ) (cpu : Cpu) : Estado :=
  { k with cpusExec := Function.update k.cpusExec c cpu }

def conEtapa (c : ℕ) (etapa : Etapa) : Estado :=
  k.conCpu c { k.cpusExec c with etapa := etapa }

def conSemaforo (d : ℕ) (sem : SemKernel) : Estado :=
  { k with semaforos := Function.update k.semaforos d (some sem) }

end Estado

end Carpinchos.Kernel
