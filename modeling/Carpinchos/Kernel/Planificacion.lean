import Carpinchos.Kernel.Semaforos

/-!
# The threads of the kernel

Each thread is a step function of the kernel. A step goes from one wait of the thread
to the next, or from one queue move to the next; the functions of the source are cut
at these places. The estimates by which SJF and HRRN choose are left to the one who
runs the model, as the position in READY.
-/

namespace Carpinchos.Kernel

/-- What can happen next in the kernel. -/
inductive Evento
  /-- the INICIALIZACION of a carpincho that connects -/
  | llegada (pid : ℤ)
  | largoPlazo
  /-- the short term planner moves; if it chooses, it takes this position of READY -/
  | cortoPlazo (elegido : ℕ)
  | medianoPlazo
  | planificadorIo
  | finalizarProceso
  | cpu (c : ℕ)
  /-- a CPU that waits for a message of its carpincho receives one -/
  | recibe (c : ℕ) (pedido : Pedido)
  deriving DecidableEq, Repr

namespace Estado

/-- `create_pcb` and the queueing in NEW, in `main`, once its INICIALIZACION is answered. -/
def llegada (k : Estado) (pid : ℤ) : Estado :=
  { k with
    pcbs := Function.update k.pcbs k.proxima (some ⟨pid, none, false, .new⟩)
    proxima := k.proxima + 1
    planificacion := 0
    processNew := k.processNew ++ [k.proxima]
    procesoNuevo := k.procesoNuevo + 1 }

def queuePop : List ℕ → Except Falla (ℕ × List ℕ)
  | [] => .error .punteroInvalido
  | p :: ps => .ok (p, ps)

def planificadorLargoPlazo (k : Estado) : Except Falla Estado :=
  match k.largoPlazo with
  | .esperandoNuevo => do
    let procesoNuevo ← semWait k.procesoNuevo
    if k.processNew ≠ [] ∧ k.processSuspendedReady = [] then
      .ok { k with procesoNuevo := procesoNuevo, largoPlazo := .esperandoLugar }
    else
      .ok { k with procesoNuevo := procesoNuevo }
  | .esperandoLugar => do
    let puedeEntrarAlSistema ← semWait k.puedeEntrarAlSistema
    let (p, processNew) ← queuePop k.processNew
    .ok { k with
      puedeEntrarAlSistema := puedeEntrarAlSistema
      processNew := processNew
      processReady := k.processReady ++ [p]
      cantidadCarpinchosEnReady := k.cantidadCarpinchosEnReady + 1
      largoPlazo := .agregado }
  | .agregado =>
    if k.processReady = [] ∨ k.uso = true then
      .ok { k with
        planificacion := 0, planificar := k.planificar + 1, largoPlazo := .durmiendo }
    else
      .ok { k with largoPlazo := .esperandoNuevo }
  | .durmiendo =>
    .ok { k with
      planificacion := k.planificacion - 1, uso := false, largoPlazo := .esperandoNuevo }

/-- `elDeMenorSJF` when the smallest estimate is at this position. -/
def elDeMenorSJF (k : Estado) (elegido : ℕ) : Except Falla (ℕ × Estado) := do
  let p ← listGet k.processReady elegido
  .ok (p, { k with processReady := k.processReady.eraseIdx elegido })

/-- `buscarCPULibre`, which spins until it finds one. -/
def buscarCPULibre (cfg : Config) (k : Estado) : Except Falla ℕ :=
  match (List.range cfg.gradoMultiprocesamiento).find? fun c => (k.cpusExec c).libre with
  | some c => .ok c
  | none => .error .noHabilitado

def asignarCPU (cfg : Config) (k : Estado) (p : ℕ) : Except Falla Estado := do
  let c ← k.buscarCPULibre cfg
  .ok (k.conCpu c ⟨false, p, .asignada⟩)

def planificarPorSJFSinDesalojo (cfg : Config) (k : Estado) (elegido : ℕ) :
    Except Falla Estado :=
  match k.cortoPlazo with
  | .esperandoListo => do
    let cantidad ← semWait k.cantidadCarpinchosEnReady
    .ok { k with cantidadCarpinchosEnReady := cantidad, cortoPlazo := .esperandoPlanificar }
  | .esperandoPlanificar => do
    let planificar ← semWait k.planificar
    if k.planificacion = 0 then do
      let (p, k) ← { k with planificar := planificar }.elDeMenorSJF elegido
      let k ← k.conStatus p .exec
      .ok { k with cortoPlazo := .asignando p }
    else
      .ok { k with planificar := planificar, planificacion := 0, cortoPlazo := .esperandoListo }
  | .asignando p => do
    let k ← k.asignarCPU cfg p
    .ok { k with cortoPlazo := .esperandoListo }

/-- `planificarPorHRRN` when `elMayorRR` finds the greatest ratio at this position. The
carpincho is marked as running but stays in READY and gets no CPU. -/
def planificarPorHRRN (k : Estado) (elegido : ℕ) : Except Falla Estado :=
  match k.cortoPlazo with
  | .esperandoListo => do
    let cantidad ← semWait k.cantidadCarpinchosEnReady
    .ok { k with cantidadCarpinchosEnReady := cantidad, cortoPlazo := .esperandoPlanificar }
  | _ => do
    let planificar ← semWait k.planificar
    let p ← listGet k.processReady elegido
    let k ← k.conStatus p .exec
    .ok { k with planificar := planificar, cortoPlazo := .esperandoListo }

def planificadorCortoPlazo (cfg : Config) (k : Estado) (elegido : ℕ) : Except Falla Estado :=
  match cfg.algoritmoPlanificacion with
  | .sjf => k.planificarPorSJFSinDesalojo cfg elegido
  | .hrrn => k.planificarPorHRRN elegido

/-- `planificadorMedianoPlazo`. The lock of SUSPENDED_BLOCKED is taken twice and never
released, so after its first move the planner waits for itself. -/
def planificadorMedianoPlazo (k : Estado) : Except Falla Estado := do
  if k.colaSuspendedBlockedTomada then .error .noHabilitado
  else
    let planifMedianoPlazo ← semWait k.planifMedianoPlazo
    let k := { k with planifMedianoPlazo := planifMedianoPlazo }
    if k.processReady = [] ∧ k.processBlocked ≠ [] ∧ k.processNew ≠ [] then
      let p ← listGet k.processBlocked (k.processBlocked.length - 1)
      .ok { k with
        processBlocked := k.processBlocked.eraseIdx (k.processBlocked.length - 1)
        processSuspendedBlocked := k.processSuspendedBlocked ++ [p]
        colaSuspendedBlockedTomada := true }
    else .ok k

def buscarPid (k : Estado) (pid : ℤ) : List ℕ → ℕ → Except Falla (Option ℕ)
  | [], _ => .ok none
  | p :: ps, i => do
    let pcb ← k.leerPcb p
    if pcb.pid = pid then .ok (some i) else k.buscarPid pid ps (i + 1)

/-- `desbloquearPID`. Among the suspended ones the position taken out is the length of
BLOCKED, where the first loop has left its counter, not the position of the carpincho;
the one taken out is not put in another queue. -/
def desbloquearPID (k : Estado) (pid : ℤ) : Except Falla Estado := do
  match ← k.buscarPid pid k.processBlocked 0 with
  | some i =>
    let p ← listGet k.processBlocked i
    let k ← k.conStatus p .ready
    .ok { k with
      processBlocked := k.processBlocked.eraseIdx i
      processReady := k.processReady ++ [p]
      cantidadCarpinchosEnReady := k.cantidadCarpinchosEnReady + 1 }
  | none =>
    match ← k.buscarPid pid k.processSuspendedBlocked 0 with
    | some _ =>
      if k.colaSuspendedBlockedTomada then .error .noHabilitado
      else
        let _ ← listGet k.processSuspendedBlocked k.processBlocked.length
        .ok { k with
          processSuspendedBlocked :=
            k.processSuspendedBlocked.eraseIdx k.processBlocked.length
          suspendidoAReady := k.suspendidoAReady + 1 }
    | none => .ok k

/-- `planificadorIo`: a request is taken from the queue, and after its burst the
carpincho is unblocked. -/
def planificadorIo (k : Estado) : Except Falla Estado :=
  match k.rafagaIO with
  | none => do
    let ejecutarIO ← semWait k.ejecutarIO
    match k.colaIO with
    | [] => .error .punteroInvalido
    | pid :: colaIO =>
      .ok { k with ejecutarIO := ejecutarIO, colaIO := colaIO, rafagaIO := some pid }
  | some pid => { k with rafagaIO := none }.desbloquearPID pid

def finalizarProceso (k : Estado) : Except Falla (List Suceso × Estado) := do
  let semFinalizarProceso ← semWait k.semFinalizarProceso
  let k := { k with semFinalizarProceso := semFinalizarProceso }
  match k.processExit with
  | [] => .ok ([], k)
  | p :: processExit =>
    let pcb ← k.leerPcb p
    .ok ([.finalizacionCarpincho pcb.pid],
      { k with
        processExit := processExit
        pcbs := Function.update k.pcbs p none
        puedeEntrarAlSistema := k.puedeEntrarAlSistema + 1 })

/-- The end of the inner loop of `ejecutarCarpincho`. -/
def soltarCpu (k : Estado) (c : ℕ) : Estado :=
  { k with
    planifMedianoPlazo := k.planifMedianoPlazo + 1
    planificar := k.planificar + 1
    planificacion := 0 }.conCpu c ⟨true, (k.cpusExec c).pcbCarpincho, .esperando⟩

/-- The top of the inner loop of `ejecutarCarpincho`, up to the test of `IO_finished`. -/
def iniciarCiclo (k : Estado) (c : ℕ) : Except Falla (List Suceso × Estado) := do
  let pcb ← k.leerPcb (k.cpusExec c).pcbCarpincho
  if pcb.status = .exec then
    if pcb.ioFinished then .ok ([], k.conEtapa c .respondiendoIo)
    else .ok ([], { k with uso := true }.conEtapa c .recibiendo)
  else .ok ([], k.soltarCpu c)

/-- The answer to a finished IO is sent. -/
def responderIo (k : Estado) (c : ℕ) : Except Falla (List Suceso × Estado) := do
  let p := (k.cpusExec c).pcbCarpincho
  let _ ← k.leerPcb p
  .ok ([.respuesta p 0], k.conEtapa c .limpiandoIo)

/-- `IO_finished` is cleared, without a lock, before the next message is read. -/
def limpiarIo (k : Estado) (c : ℕ) : Except Falla (List Suceso × Estado) := do
  let p := (k.cpusExec c).pcbCarpincho
  let pcb ← k.leerPcb p
  .ok ([], ({ k with uso := true }.conPcb p { pcb with ioFinished := false }).conEtapa c
    .recibiendo)

/-- One step of the thread of a CPU that is not waiting for a message. -/
def pasoCpu (k : Estado) (c : ℕ) : Except Falla (List Suceso × Estado) := do
  let p := (k.cpusExec c).pcbCarpincho
  match (k.cpusExec c).etapa with
  | .esperando => .error .noHabilitado
  | .recibiendo => .error .noHabilitado
  | .asignada => .ok ([], { k with planificacion := 0 }.conEtapa c .ciclo)
  | .ciclo => k.iniciarCiclo c
  | .respondiendoIo => k.responderIo c
  | .limpiandoIo => k.limpiarIo c
  | .bloqueandoPorIo =>
    let pcb ← k.leerPcb p
    .ok ([], ({ k with processBlocked := k.processBlocked ++ [p] }.conPcb p
      { pcb with ioFinished := true }).conEtapa c .ciclo)
  | .creandoSemaforo nombre valor => .ok ((k.agregarSemaforo nombre valor).responder c [])
  | .restandoSemaforo d => k.restar c d
  | .bloqueandoPorSemaforo =>
    .ok ({ k with processBlocked := k.processBlocked ++ [p] }.responder c [])
  | .desbloqueando nombre =>
    let (sucesos, k) ← k.desbloquearProcesoPorSemaforo nombre
    .ok (k.responder c sucesos)
  | .reasignando nombre d =>
    let k ← k.liberarSemaforo nombre d
    .ok (k.responder c [])

def encolarIo (k : Estado) (pid : ℤ) : Estado :=
  { k with colaIO := k.colaIO ++ [pid], ejecutarIO := k.ejecutarIO + 1 }

/-- `ejecutarCarpincho` from the arrival of a message on. A message of no known type is
answered through the number of the socket taken for a pointer. -/
def recibir (k : Estado) (c : ℕ) (pedido : Pedido) : Except Falla (List Suceso × Estado) := do
  let p := (k.cpusExec c).pcbCarpincho
  let k := { k with uso := false }
  match pedido with
  | .memoria => .ok ([.pedidoAMemoria p], k.conEtapa c .ciclo)
  | .io _ =>
    let pcb ← k.leerPcb p
    .ok ([], ((k.conPcb p { pcb with status := .blocked }).encolarIo pcb.pid).conEtapa c
      .bloqueandoPorIo)
  | .semaforo sema => k.operacionesSemaforo c sema
  | .finalizacion =>
    let pcb ← k.leerPcb p
    .ok ([.respuesta p 0],
      { k.conPcb p { pcb with status := .finished } with
        processExit := k.processExit ++ [p]
        semFinalizarProceso := k.semFinalizarProceso + 1 }.conEtapa c .ciclo)
  | .invalido => .error .punteroInvalido

def paso (cfg : Config) : Evento → Estado → Except Falla (List Suceso × Estado)
  | .llegada pid, k => .ok ([.iniciado k.proxima], k.llegada pid)
  | .largoPlazo, k => do .ok ([], ← k.planificadorLargoPlazo)
  | .cortoPlazo elegido, k => do .ok ([], ← k.planificadorCortoPlazo cfg elegido)
  | .medianoPlazo, k => do .ok ([], ← k.planificadorMedianoPlazo)
  | .planificadorIo, k => do .ok ([], ← k.planificadorIo)
  | .finalizarProceso, k => k.finalizarProceso
  | .cpu c, k => k.pasoCpu c
  | .recibe c pedido, k =>
    if (k.cpusExec c).etapa = .recibiendo then k.recibir c pedido else .error .noHabilitado

end Estado

end Carpinchos.Kernel
