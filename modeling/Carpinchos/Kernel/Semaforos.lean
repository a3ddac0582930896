import Carpinchos.Kernel.Estado

/-!
# The semaphores of the kernel

`operacionesSemaforo` serves the four operations. The test of `restarSem` is made
without the lock and the value is lowered later; `sumarSem` raises the value and
`desbloquearProcesoPorSemaforo` then moves a waiter out of the blocked lists. A CPU
takes one step between two of these accesses.
-/

namespace Carpinchos.Kernel

/-- The C `int` range, past which signed arithmetic is undefined. -/
def entero (x : ℤ) : Except Falla ℤ :=
  if -2 ^ 31 ≤ x ∧ x < 2 ^ 31 then .ok x else .error .desbordamiento

namespace Estado

/-- The first position, from `i` on, that holds the semaphore of this name. -/
def buscarSem (k : Estado) (nombreSem : String) : List ℕ → ℕ → Except Falla (Option ℕ)
  | [], _ => .ok none
  | d :: ds, i => do
    let sem ← k.leerSemaforo d
    if sem.nombre = nombreSem then .ok (some i) else k.buscarSem nombreSem ds (i + 1)

def verificarExisteSem (k : Estado) (nombreSem : String) : Except Falla (Option ℕ) :=
  k.buscarSem nombreSem k.semaforosKernel 0

def semaforoEn (k : Estado) (position : ℕ) : Except Falla ℕ :=
  listGet k.semaforosKernel position

/-- The first control block of a list that requires this semaphore. -/
def buscarRequerido (k : Estado) (nombre : String) : List ℕ → ℕ → Except Falla (Option ℕ)
  | [], _ => .ok none
  | p :: ps, i => do
    let pcb ← k.leerPcb p
    match pcb.semaforoRequerido with
    | none => .error .punteroInvalido
    | some requerido =>
      if requerido = nombre then .ok (some i) else k.buscarRequerido nombre ps (i + 1)

/-- The end of `operacionesSemaforo`: the carpincho is answered. -/
def responder (k : Estado) (c : ℕ) (sucesos : List Suceso) : List Suceso × Estado :=
  (sucesos ++ [.respuesta (k.cpusExec c).pcbCarpincho 0], k.conEtapa c .ciclo)

/-- `crearSemaforoKernel` up to the lock. -/
def crearSemaforoKernel (k : Estado) (c : ℕ) (nombre : String) (valor : ℤ) :
    Except Falla (List Suceso × Estado) := do
  match ← k.verificarExisteSem nombre with
  | none => .ok ([], k.conEtapa c (.creandoSemaforo nombre valor))
  | some _ => .ok (k.responder c [])

def agregarSemaforo (k : Estado) (nombre : String) (valor : ℤ) : Estado :=
  { k with
    semaforos := Function.update k.semaforos k.proxima (some ⟨valor, nombre⟩)
    proxima := k.proxima + 1
    semaforosKernel := k.semaforosKernel ++ [k.proxima] }

/-- `restarSem` up to the lock. A carpincho that finds no unit is marked as blocked. -/
def restarSem (k : Estado) (c : ℕ) (nombre : String) : Except Falla (List Suceso × Estado) := do
  match ← k.verificarExisteSem nombre with
  | none => .ok (k.responder c [])
  | some position =>
    let d ← k.semaforoEn position
    let sem ← k.leerSemaforo d
    if 1 ≤ sem.valor then
      .ok ([], k.conEtapa c (.restandoSemaforo d))
    else
      let k ← k.conStatus (k.cpusExec c).pcbCarpincho .blocked
      .ok ([], k.conEtapa c .bloqueandoPorSemaforo)

/-- `restarSem` with the lock taken. -/
def restar (k : Estado) (c d : ℕ) : Except Falla (List Suceso × Estado) := do
  let sem ← k.leerSemaforo d
  let valor ← entero (sem.valor - 1)
  .ok ((k.conSemaforo d { sem with valor := valor }).responder c [.restado d])

def sumarSem (k : Estado) (c : ℕ) (nombre : String) : Except Falla (List Suceso × Estado) := do
  match ← k.verificarExisteSem nombre with
  | none => .ok ([], k.conEtapa c (.desbloqueando nombre))
  | some position =>
    let d ← k.semaforoEn position
    let sem ← k.leerSemaforo d
    let valor ← entero (sem.valor + 1)
    .ok ([.sumado d],
      (k.conSemaforo d { sem with valor := valor }).conEtapa c (.desbloqueando nombre))

/-- `desbloquearProcesoPorSemaforo`: the first waiter among the suspended ones is taken out,
else the first among the blocked ones goes to READY. For a suspended one `list_add` gets the
`t_queue` of SUSPENDED_READY where it takes a list, so it enters no queue. -/
def desbloquearProcesoPorSemaforo (k : Estado) (nombre : String) :
    Except Falla (List Suceso × Estado) := do
  match ← k.buscarRequerido nombre k.processSuspendedBlocked 0 with
  | some i =>
    if k.colaSuspendedBlockedTomada then .error .noHabilitado
    else
      let p ← listGet k.processSuspendedBlocked i
      .ok ([.desbloqueado nombre p],
        { k with
          processSuspendedBlocked := k.processSuspendedBlocked.eraseIdx i })
  | none =>
    match ← k.buscarRequerido nombre k.processBlocked 0 with
    | some j =>
      let p ← listGet k.processBlocked j
      let k ← k.conStatus p .ready
      .ok ([.desbloqueado nombre p],
        { k with
          processBlocked := k.processBlocked.eraseIdx j
          processReady := k.processReady ++ [p]
          cantidadCarpinchosEnReady := k.cantidadCarpinchosEnReady + 1 })
    | none => .ok ([], k)

/-- `eliminarSemaforoKernel` up to the call of `reasignarProcesos`. -/
def eliminarSemaforoKernel (k : Estado) (c : ℕ) (nombre : String) :
    Except Falla (List Suceso × Estado) := do
  match ← k.verificarExisteSem nombre with
  | none => .ok (k.responder c [])
  | some position =>
    let d ← k.semaforoEn position
    .ok ([], { k with semaforosKernel := k.semaforosKernel.eraseIdx position }.conEtapa c
      (.reasignando nombre d))

/-- `reasignarProcesos`: each control block of BLOCKED that requires the semaphore loses
its PID. `list_replace` gets the address of the control block where it takes a position of
the list of semaphores, which has no such position, and does nothing. -/
def reasignarProcesos (nombre : String) : Estado → List ℕ → Except Falla Estado
  | k, [] => .ok k
  | k, p :: ps => do
    let pcb ← k.leerPcb p
    match pcb.semaforoRequerido with
    | none => .error .punteroInvalido
    | some requerido =>
      if requerido = nombre then reasignarProcesos nombre (k.conPcb p { pcb with pid := -1 }) ps
      else reasignarProcesos nombre k ps

/-- `eliminarSemaforoKernel` from the call of `reasignarProcesos` on. -/
def liberarSemaforo (k : Estado) (nombre : String) (d : ℕ) : Except Falla Estado := do
  let k ← reasignarProcesos nombre k k.processBlocked
  .ok { k with semaforos := Function.update k.semaforos d none }

/-- `operacionesSemaforo`. Every operation notes the semaphore in the control block. -/
def operacionesSemaforo (k : Estado) (c : ℕ) (sema : Semaforo) :
    Except Falla (List Suceso × Estado) := do
  let p := (k.cpusExec c).pcbCarpincho
  let pcb ← k.leerPcb p
  let k := k.conPcb p { pcb with semaforoRequerido := some sema.nombreSem }
  match sema.operacion with
  | .init => k.crearSemaforoKernel c sema.nombreSem sema.valor
  | .wait => k.restarSem c sema.nombreSem
  | .post => k.sumarSem c sema.nombreSem
  | .destroy => k.eliminarSemaforoKernel c sema.nombreSem
  | .invalida => .ok (k.responder c [])

end Estado

end Carpinchos.Kernel
