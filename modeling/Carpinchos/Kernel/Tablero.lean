import Carpinchos.Kernel.Conservacion

/-!
# The board of the planners

The threads run together with the detector of deadlocks, whose reads past the end of a record
are inputs, as is the pointer without a value of `buscarCPULibre`. Of the state of the kernel
the planners move the queues, the CPUs, the status of the control blocks and two counters.
Each step is one move of this board.
-/

namespace Carpinchos.Kernel

open Outcome

/-- A move of a thread of the kernel, or one that depends on a read without a value. -/
inductive Turno
  | hilo (e : Evento)
  /-- `buscarCPULibre` finds FREE through its pointer and gives no CPU -/
  | sinCpu
  /-- the detector finds no semaphore -/
  | deteccion (i : ℕ)
  /-- the detector reads the PID of the carpincho past the end of the semaphore -/
  | reposicion (pid : ℤ)
  /-- the detector comes to a PID to be terminated -/
  | terminacion (pid : ℤ)
  deriving DecidableEq, Repr

structure Ficha where
  status : Status
  ioFinished : Bool
  deriving DecidableEq, Repr

structure Tablero where
  ficha : ℕ → Option Ficha
  nuevos : List ℕ
  listos : List ℕ
  bloqueados : List ℕ
  suspendidos : List ℕ
  salida : List ℕ
  cpu : ℕ → Cpu
  corto : CortoPlazo
  /-- the value of `puedeEntrarAlSistema` -/
  lugares : ℕ
  /-- the value of `cantidadCarpinchosEnReady` -/
  cantidad : ℕ
  proxima : ℕ

def Etapa.atendiendo : Etapa → Bool
  | .creandoSemaforo .. | .restandoSemaforo _ | .desbloqueando _ | .reasignando .. => true
  | _ => false

namespace Estado

def fichaDe (pcb : Pcb) : Ficha := ⟨pcb.status, pcb.ioFinished⟩

def tablero (k : Estado) : Tablero where
  ficha p := (k.pcbs p).map fichaDe
  nuevos := k.processNew
  listos := k.processReady
  bloqueados := k.processBlocked
  suspendidos := k.processSuspendedBlocked
  salida := k.processExit
  cpu := k.cpusExec
  corto := k.cortoPlazo
  lugares := k.puedeEntrarAlSistema
  cantidad := k.cantidadCarpinchosEnReady
  proxima := k.proxima

/-- `asignarCPU` when it is given no CPU. -/
def perderAsignado (k : Estado) : Except Falla Estado :=
  match k.cortoPlazo with
  | .asignando _ => .ok { k with cortoPlazo := .esperandoListo }
  | _ => .error .noHabilitado

def pasoTurno (cfg : Config) : Turno → Estado → Except Falla (List Suceso × Estado)
  | .hilo e, k => k.paso cfg e
  | .sinCpu, k => do .ok ([], ← k.perderAsignado)
  | .deteccion i, k => do .ok ([], ← k.chequearDeadlock i)
  | .reposicion pid, k => do .ok ([], ← k.pasarDeBloqueadoAReady pid)
  | .terminacion pid, k => do .ok ([], ← k.terminarProceso pid)

def puedeQuedar (k : Estado) : Turno → Bool
  | .hilo .medianoPlazo =>
    ¬ (k.processReady = [] ∧ k.processBlocked ≠ [] ∧ k.processNew ≠ [])
  | .hilo .largoPlazo | .hilo .planificadorIo | .hilo .finalizarProceso | .deteccion _ => true
  | .reposicion pid => !k.processBlocked.any (k.tienePid pid)
  | .terminacion pid =>
    !(k.processBlocked.take (k.processBlocked.length - 1)).any (k.tienePid pid)
  | _ => false

end Estado

namespace Tablero

def conFicha (s : Tablero) (p : ℕ) (f : Ficha) : Tablero :=
  { s with ficha := Function.update s.ficha p (some f) }

def conCpu (s : Tablero) (c : ℕ) (cpu : Cpu) : Tablero :=
  { s with cpu := Function.update s.cpu c cpu }

def conEtapa (s : Tablero) (c : ℕ) (etapa : Etapa) : Tablero :=
  s.conCpu c { s.cpu c with etapa := etapa }

inductive Despierta (s : Tablero) : Tablero → Prop
  | nadie : Despierta s s
  | bloqueado (j p : ℕ) (f : Ficha) (hj : s.bloqueados[j]? = some p) (hf : s.ficha p = some f) :
      Despierta s ({ s with
        bloqueados := s.bloqueados.eraseIdx j
        listos := s.listos ++ [p]
        cantidad := s.cantidad + 1 }.conFicha p { f with status := .ready })
  | suspendido (i : ℕ) (hi : i < s.suspendidos.length) :
      Despierta s { s with suspendidos := s.suspendidos.eraseIdx i }

end Tablero

/-- The carpinchos that are answered, in order. -/
def respondidos (o : List Suceso) : List ℕ :=
  o.filterMap fun
    | .respuesta p _ => some p
    | _ => none

/-- What a step does to the board, with the carpinchos that it answers. -/
inductive Jugada (cfg : Config) (k : Estado) : Turno → List ℕ → Tablero → Prop
  | quieta {m : Turno} (hm : k.puedeQuedar m = true) : Jugada cfg k m [] k.tablero
  | llegada (pid : ℤ) : Jugada cfg k (.hilo (.llegada pid)) []
      ({ k.tablero with nuevos := k.processNew ++ [k.proxima], proxima := k.proxima + 1 }.conFicha
        k.proxima ⟨.new, false⟩)
  | admision (p n : ℕ) (ps : List ℕ) (hlugares : k.puedeEntrarAlSistema = n + 1)
      (hnuevos : k.processNew = p :: ps) : Jugada cfg k (.hilo .largoPlazo) []
      { k.tablero with
        lugares := n
        nuevos := ps
        listos := k.processReady ++ [p]
        cantidad := k.cantidadCarpinchosEnReady + 1 }
  | espera (i n : ℕ) (hcorto : k.cortoPlazo = .esperandoListo)
      (hcantidad : k.cantidadCarpinchosEnReady = n + 1) : Jugada cfg k (.hilo (.cortoPlazo i)) []
      { k.tablero with cantidad := n, corto := .esperandoPlanificar }
  | eleccion (i p : ℕ) (f : Ficha) (halg : cfg.algoritmoPlanificacion = .sjf)
      (hcorto : k.cortoPlazo = .esperandoPlanificar) (hcero : k.planificacion = 0)
      (hp : k.processReady[i]? = some p) (hf : k.tablero.ficha p = some f) :
      Jugada cfg k (.hilo (.cortoPlazo i)) []
      ({ k.tablero with
        listos := k.processReady.eraseIdx i
        corto := .asignando p }.conFicha p { f with status := .exec })
  | salto (i : ℕ) (halg : cfg.algoritmoPlanificacion = .sjf)
      (hcorto : k.cortoPlazo = .esperandoPlanificar) (hcero : k.planificacion ≠ 0) :
      Jugada cfg k (.hilo (.cortoPlazo i)) [] { k.tablero with corto := .esperandoListo }
  | asignacion (i p c : ℕ) (halg : cfg.algoritmoPlanificacion = .sjf)
      (hcorto : k.cortoPlazo = .asignando p) (hc : c < cfg.gradoMultiprocesamiento)
      (hlibre : (k.cpusExec c).libre = true) : Jugada cfg k (.hilo (.cortoPlazo i)) []
      ({ k.tablero with corto := .esperandoListo }.conCpu c ⟨false, p, .asignada⟩)
  | perdida (p : ℕ) (hcorto : k.cortoPlazo = .asignando p) :
      Jugada cfg k .sinCpu [] { k.tablero with corto := .esperandoListo }
  | ratio (i p : ℕ) (f : Ficha) (halg : cfg.algoritmoPlanificacion = .hrrn)
      (hcorto : k.cortoPlazo ≠ .esperandoListo) (hp : k.processReady[i]? = some p)
      (hf : k.tablero.ficha p = some f) : Jugada cfg k (.hilo (.cortoPlazo i)) []
      ({ k.tablero with corto := .esperandoListo }.conFicha p { f with status := .exec })
  | suspension (p : ℕ) (hready : k.processReady = []) (hblocked : k.processBlocked ≠ [])
      (hnew : k.processNew ≠ [])
      (hp : k.processBlocked[k.processBlocked.length - 1]? = some p) :
      Jugada cfg k (.hilo .medianoPlazo) []
      { k.tablero with
        bloqueados := k.processBlocked.eraseIdx (k.processBlocked.length - 1)
        suspendidos := k.processSuspendedBlocked ++ [p] }
  | finIo {s : Tablero} (h : k.tablero.Despierta s) : Jugada cfg k (.hilo .planificadorIo) [] s
  | liberacion (p : ℕ) (ps : List ℕ) (f : Ficha) (hsalida : k.processExit = p :: ps)
      (hf : k.tablero.ficha p = some f) : Jugada cfg k (.hilo .finalizarProceso) []
      { k.tablero with
        salida := ps
        ficha := Function.update k.tablero.ficha p none
        lugares := k.puedeEntrarAlSistema + 1 }
  | reposicion (pid : ℤ) (elegidos resto : List ℕ) (hel : elegidos ≠ [])
      (hpid : k.processBlocked.any (k.tienePid pid) = true)
      (hperm : k.processBlocked.Perm (resto ++ elegidos)) : Jugada cfg k (.reposicion pid) []
      { k.tablero with bloqueados := resto, listos := k.processReady ++ elegidos }
  | terminacion (pid : ℤ) (elegidos resto : List ℕ)
      (hpid : (k.processBlocked.take (k.processBlocked.length - 1)).any (k.tienePid pid) = true)
      (hperm : k.processBlocked.Perm (resto ++ elegidos)) : Jugada cfg k (.terminacion pid) []
      { k.tablero with
        bloqueados := resto
        ficha := fun q => if q ∈ elegidos then none else k.tablero.ficha q }
  | comienzo (c : ℕ) (hetapa : (k.cpusExec c).etapa = .asignada) :
      Jugada cfg k (.hilo (.cpu c)) [] (k.tablero.conEtapa c .ciclo)
  | escucha (c : ℕ) (f : Ficha) (hetapa : (k.cpusExec c).etapa = .ciclo)
      (hf : k.tablero.ficha (k.cpusExec c).pcbCarpincho = some f) (hexec : f.status = .exec)
      (hio : f.ioFinished = false) :
      Jugada cfg k (.hilo (.cpu c)) [] (k.tablero.conEtapa c .recibiendo)
  | hallaIo (c : ℕ) (f : Ficha) (hetapa : (k.cpusExec c).etapa = .ciclo)
      (hf : k.tablero.ficha (k.cpusExec c).pcbCarpincho = some f) (hexec : f.status = .exec)
      (hio : f.ioFinished = true) :
      Jugada cfg k (.hilo (.cpu c)) [] (k.tablero.conEtapa c .respondiendoIo)
  | respuestaIo (c : ℕ) (hetapa : (k.cpusExec c).etapa = .respondiendoIo) :
      Jugada cfg k (.hilo (.cpu c)) [(k.cpusExec c).pcbCarpincho]
      (k.tablero.conEtapa c .limpiandoIo)
  | limpiezaIo (c : ℕ) (f : Ficha) (hetapa : (k.cpusExec c).etapa = .limpiandoIo)
      (hf : k.tablero.ficha (k.cpusExec c).pcbCarpincho = some f) :
      Jugada cfg k (.hilo (.cpu c)) []
      ((k.tablero.conFicha (k.cpusExec c).pcbCarpincho { f with ioFinished := false }).conEtapa c
        .recibiendo)
  | suelta (c : ℕ) (f : Ficha) (hetapa : (k.cpusExec c).etapa = .ciclo)
      (hf : k.tablero.ficha (k.cpusExec c).pcbCarpincho = some f) (hexec : f.status ≠ .exec) :
      Jugada cfg k (.hilo (.cpu c)) []
      (k.tablero.conCpu c ⟨true, (k.cpusExec c).pcbCarpincho, .esperando⟩)
  | bloqueoIo (c : ℕ) (f : Ficha) (hetapa : (k.cpusExec c).etapa = .bloqueandoPorIo)
      (hf : k.tablero.ficha (k.cpusExec c).pcbCarpincho = some f) :
      Jugada cfg k (.hilo (.cpu c)) []
      (({ k.tablero with
        bloqueados := k.processBlocked ++ [(k.cpusExec c).pcbCarpincho] }.conFicha
          (k.cpusExec c).pcbCarpincho { f with ioFinished := true }).conEtapa c .ciclo)
  | bloqueoWait (c : ℕ) (hetapa : (k.cpusExec c).etapa = .bloqueandoPorSemaforo) :
      Jugada cfg k (.hilo (.cpu c)) [(k.cpusExec c).pcbCarpincho]
      ({ k.tablero with
        bloqueados := k.processBlocked ++ [(k.cpusExec c).pcbCarpincho] }.conEtapa c .ciclo)
  | fin (c n : ℕ) {s : Tablero} (hetapa : (k.cpusExec c).etapa.atendiendo = true)
      (hn : k.proxima ≤ n) (h : k.tablero.Despierta s) :
      Jugada cfg k (.hilo (.cpu c)) [(k.cpusExec c).pcbCarpincho]
      ({ s with proxima := n }.conEtapa c .ciclo)
  | memoria (c : ℕ) (hetapa : (k.cpusExec c).etapa = .recibiendo) :
      Jugada cfg k (.hilo (.recibe c .memoria)) [] (k.tablero.conEtapa c .ciclo)
  | pedidoIo (c : ℕ) (nombre : String) (f : Ficha) (hetapa : (k.cpusExec c).etapa = .recibiendo)
      (hf : k.tablero.ficha (k.cpusExec c).pcbCarpincho = some f) :
      Jugada cfg k (.hilo (.recibe c (.io nombre))) []
      ((k.tablero.conFicha (k.cpusExec c).pcbCarpincho { f with status := .blocked }).conEtapa c
        .bloqueandoPorIo)
  | pedidoWait (c : ℕ) (sema : Semaforo) (f : Ficha) (hetapa : (k.cpusExec c).etapa = .recibiendo)
      (hf : k.tablero.ficha (k.cpusExec c).pcbCarpincho = some f) (hop : sema.operacion = .wait) :
      Jugada cfg k (.hilo (.recibe c (.semaforo sema))) []
      ((k.tablero.conFicha (k.cpusExec c).pcbCarpincho { f with status := .blocked }).conEtapa c
        .bloqueandoPorSemaforo)
  | pedidoSemaforo (c : ℕ) (sema : Semaforo) (etapa : Etapa)
      (hetapa : (k.cpusExec c).etapa = .recibiendo) (hatiende : etapa.atendiendo = true) :
      Jugada cfg k (.hilo (.recibe c (.semaforo sema))) [] (k.tablero.conEtapa c etapa)
  | respuestaSemaforo (c : ℕ) (sema : Semaforo) (hetapa : (k.cpusExec c).etapa = .recibiendo) :
      Jugada cfg k (.hilo (.recibe c (.semaforo sema))) [(k.cpusExec c).pcbCarpincho]
      (k.tablero.conEtapa c .ciclo)
  | finalizacion (c : ℕ) (f : Ficha) (hetapa : (k.cpusExec c).etapa = .recibiendo)
      (hf : k.tablero.ficha (k.cpusExec c).pcbCarpincho = some f) :
      Jugada cfg k (.hilo (.recibe c .finalizacion)) [(k.cpusExec c).pcbCarpincho]
      (({ k.tablero with
        salida := k.processExit ++ [(k.cpusExec c).pcbCarpincho] }.conFicha
          (k.cpusExec c).pcbCarpincho { f with status := .finished }).conEtapa c .ciclo)

theorem Tablero.Despierta.cpu_eq {s s' : Tablero} (h : s.Despierta s') : s'.cpu = s.cpu := by
  cases h <;> rfl

theorem Tablero.Despierta.proxima_eq {s s' : Tablero} (h : s.Despierta s') :
    s'.proxima = s.proxima := by
  cases h <;> rfl

theorem respondidos_append (o o' : List Suceso) :
    respondidos (o ++ o') = respondidos o ++ respondidos o' := List.filterMap_append

theorem Tablero.Despierta.congr {s s₁ s₂ : Tablero} (h : s.Despierta s₁) (hs : s₂ = s₁) :
    s.Despierta s₂ := hs ▸ h

theorem Jugada.congr {cfg : Config} {k : Estado} {m : Turno} {ps : List ℕ} {s s' : Tablero}
    (h : Jugada cfg k m ps s) (hs : s' = s) : Jugada cfg k m ps s' := hs ▸ h

namespace Estado

theorem semWait_eq_ok {n m : ℕ} : semWait n = .ok m ↔ n = m + 1 := by
  cases n <;> simp [semWait]

theorem queuePop_eq_ok {l ps : List ℕ} {p : ℕ} : queuePop l = .ok (p, ps) ↔ l = p :: ps := by
  cases l <;> simp [queuePop]

section Fichas

variable {k k' : Estado} {p q c : ℕ} {pcb pcb' : Pcb}

theorem ficha_of_pcb (h : k.pcbs p = some pcb) : k.tablero.ficha p = some (fichaDe pcb) := by
  simp only [tablero, h, Option.map_some]

theorem tablero_conPcb (k : Estado) (p : ℕ) (pcb : Pcb) :
    (k.conPcb p pcb).tablero = k.tablero.conFicha p (fichaDe pcb) := by
  have hficha : (fun q => ((k.conPcb p pcb).pcbs q).map fichaDe) =
      Function.update k.tablero.ficha p (some (fichaDe pcb)) := by
    funext q
    by_cases hq : q = p
    · subst hq
      simp [conPcb]
    · simp [conPcb, hq, tablero]
  unfold Tablero.conFicha
  rw [← hficha]
  rfl

theorem tablero_conPcb_self (h : k.pcbs p = some pcb) (hf : fichaDe pcb' = fichaDe pcb) :
    (k.conPcb p pcb').tablero = k.tablero := by
  rw [tablero_conPcb, hf]
  unfold Tablero.conFicha
  rw [← ficha_of_pcb h, Function.update_eq_self]

theorem conStatus_eq_ok {status : Status} (h : k.conStatus p status = .ok k') :
    ∃ pcb, k.pcbs p = some pcb ∧ k' = k.conPcb p { pcb with status := status } := by
  obtain ⟨pcb, hpcb, h⟩ := bind_eq_ok.1 h
  cases h
  exact ⟨pcb, leerPcb_eq_ok.1 hpcb, rfl⟩

end Fichas

section Planificadores

variable {cfg : Config} {k k' : Estado} {o : List Suceso} {c p i : ℕ} {pid : ℤ} {nombre : String}

theorem planificadorLargoPlazo_jugada (h : k.planificadorLargoPlazo = .ok k') :
    Jugada cfg k (.hilo .largoPlazo) [] k'.tablero := by
  unfold planificadorLargoPlazo at h
  cases hetapa : k.largoPlazo with
  | esperandoNuevo =>
    simp only [hetapa] at h
    obtain ⟨n, -, h⟩ := bind_eq_ok.1 h
    split at h <;> cases h <;> exact .quieta rfl
  | esperandoLugar =>
    simp only [hetapa] at h
    obtain ⟨n, hn, h⟩ := bind_eq_ok.1 h
    obtain ⟨⟨p, ps⟩, hps, h⟩ := bind_eq_ok.1 h
    cases h
    exact .admision p n ps (semWait_eq_ok.1 hn) (queuePop_eq_ok.1 hps)
  | agregado =>
    simp only [hetapa] at h
    split at h <;> cases h <;> exact .quieta rfl
  | durmiendo =>
    simp only [hetapa] at h
    cases h
    exact .quieta rfl

theorem asignarCPU_eq_ok (h : k.asignarCPU cfg p = .ok k') :
    ∃ c < cfg.gradoMultiprocesamiento, (k.cpusExec c).libre = true ∧
      k' = k.conCpu c ⟨false, p, .asignada⟩ := by
  obtain ⟨c, hc, h⟩ := bind_eq_ok.1 h
  cases h
  unfold buscarCPULibre at hc
  split at hc
  · next c' hfind =>
    cases hc
    have hlibre : (k.cpusExec c).libre = true := by simpa using List.find?_some hfind
    exact ⟨c, List.mem_range.1 (List.mem_of_find?_eq_some hfind), hlibre, rfl⟩
  · cases hc

theorem planificarPorSJFSinDesalojo_jugada (halg : cfg.algoritmoPlanificacion = .sjf)
    (h : k.planificarPorSJFSinDesalojo cfg i = .ok k') :
    Jugada cfg k (.hilo (.cortoPlazo i)) [] k'.tablero := by
  unfold planificarPorSJFSinDesalojo at h
  cases hetapa : k.cortoPlazo with
  | esperandoListo =>
    simp only [hetapa] at h
    obtain ⟨n, hn, h⟩ := bind_eq_ok.1 h
    cases h
    exact .espera i n hetapa (semWait_eq_ok.1 hn)
  | esperandoPlanificar =>
    simp only [hetapa] at h
    obtain ⟨n, -, h⟩ := bind_eq_ok.1 h
    split at h
    · next hcero =>
      obtain ⟨⟨p, k₁⟩, h₁, h⟩ := bind_eq_ok.1 h
      obtain ⟨p', hp, h₁⟩ := bind_eq_ok.1 h₁
      cases h₁
      obtain ⟨k₂, h₂, h⟩ := bind_eq_ok.1 h
      cases h
      obtain ⟨pcb, hpcb, rfl⟩ := conStatus_eq_ok h₂
      have hjugada := @Jugada.eleccion cfg k i p (fichaDe pcb) halg hetapa hcero
        (listGet_eq_ok.1 hp) (ficha_of_pcb hpcb)
      exact hjugada.congr (tablero_conPcb { k with
        processReady := k.processReady.eraseIdx i, planificar := n, cortoPlazo := .asignando p }
        p { pcb with status := .exec })
    · next hcero =>
      cases h
      exact .salto i halg hetapa hcero
  | asignando p =>
    simp only [hetapa] at h
    obtain ⟨k₁, h₁, h⟩ := bind_eq_ok.1 h
    cases h
    obtain ⟨c, hc, hlibre, rfl⟩ := asignarCPU_eq_ok h₁
    exact .asignacion i p c halg hetapa hc hlibre

theorem planificarPorHRRN_jugada (halg : cfg.algoritmoPlanificacion = .hrrn)
    (h : k.planificarPorHRRN i = .ok k') :
    Jugada cfg k (.hilo (.cortoPlazo i)) [] k'.tablero := by
  unfold planificarPorHRRN at h
  split at h
  · next hetapa =>
    obtain ⟨n, hn, h⟩ := bind_eq_ok.1 h
    cases h
    exact .espera i n hetapa (semWait_eq_ok.1 hn)
  · next hetapa =>
    obtain ⟨n, -, h⟩ := bind_eq_ok.1 h
    obtain ⟨p, hp, h⟩ := bind_eq_ok.1 h
    obtain ⟨k₁, h₁, h⟩ := bind_eq_ok.1 h
    cases h
    obtain ⟨pcb, hpcb, rfl⟩ := conStatus_eq_ok h₁
    have hjugada := @Jugada.ratio cfg k i p (fichaDe pcb) halg hetapa
      (listGet_eq_ok.1 hp) (ficha_of_pcb hpcb)
    exact hjugada.congr (tablero_conPcb { k with planificar := n, cortoPlazo := .esperandoListo }
      p { pcb with status := .exec })

theorem planificadorMedianoPlazo_jugada (h : k.planificadorMedianoPlazo = .ok k') :
    Jugada cfg k (.hilo .medianoPlazo) [] k'.tablero := by
  unfold planificadorMedianoPlazo at h
  split at h
  · cases h
  · obtain ⟨n, -, h⟩ := bind_eq_ok.1 h
    dsimp only at h
    split at h
    · next hcola =>
      obtain ⟨p, hp, h⟩ := bind_eq_ok.1 h
      cases h
      exact .suspension p hcola.1 hcola.2.1 hcola.2.2 (listGet_eq_ok.1 hp)
    · next hcola =>
      cases h
      exact .quieta (decide_eq_true hcola)

theorem desbloquearPID_despierta (h : k.desbloquearPID pid = .ok k') :
    k.tablero.Despierta k'.tablero := by
  obtain ⟨bloqueado, -, h⟩ := bind_eq_ok.1 h
  cases bloqueado with
  | some j =>
    obtain ⟨p, hp, h⟩ := bind_eq_ok.1 h
    obtain ⟨k₁, h₁, h⟩ := bind_eq_ok.1 h
    cases h
    obtain ⟨pcb, hpcb, rfl⟩ := conStatus_eq_ok h₁
    have hdespierta := Tablero.Despierta.bloqueado (s := k.tablero) j p (fichaDe pcb)
      (listGet_eq_ok.1 hp) (ficha_of_pcb hpcb)
    exact hdespierta.congr (tablero_conPcb { k with
      processBlocked := k.processBlocked.eraseIdx j
      processReady := k.processReady ++ [p]
      cantidadCarpinchosEnReady := k.cantidadCarpinchosEnReady + 1 }
      p { pcb with status := .ready })
  | none =>
    obtain ⟨suspendido, -, h⟩ := bind_eq_ok.1 h
    cases suspendido with
    | some i =>
      dsimp only at h
      split at h
      · cases h
      · obtain ⟨p, hp, h⟩ := bind_eq_ok.1 h
        cases h
        have hlt := (List.getElem?_eq_some_iff.1 (listGet_eq_ok.1 hp)).1
        exact .suspendido _ hlt
    | none =>
      cases h
      exact .nadie

theorem desbloquearProcesoPorSemaforo_despierta
    (h : k.desbloquearProcesoPorSemaforo nombre = .ok (o, k')) :
    k.tablero.Despierta k'.tablero ∧ respondidos o = [] := by
  obtain ⟨suspendido, -, h⟩ := bind_eq_ok.1 h
  cases suspendido with
  | some i =>
    dsimp only at h
    split at h
    · cases h
    · obtain ⟨p, hp, h⟩ := bind_eq_ok.1 h
      cases h
      have hlt := (List.getElem?_eq_some_iff.1 (listGet_eq_ok.1 hp)).1
      exact ⟨.suspendido i hlt, rfl⟩
  | none =>
    obtain ⟨bloqueado, -, h⟩ := bind_eq_ok.1 h
    cases bloqueado with
    | some j =>
      obtain ⟨p, hp, h⟩ := bind_eq_ok.1 h
      obtain ⟨k₁, h₁, h⟩ := bind_eq_ok.1 h
      cases h
      obtain ⟨pcb, hpcb, rfl⟩ := conStatus_eq_ok h₁
      have hdespierta := Tablero.Despierta.bloqueado (s := k.tablero) j p (fichaDe pcb)
        (listGet_eq_ok.1 hp) (ficha_of_pcb hpcb)
      refine ⟨?_, rfl⟩
      exact hdespierta.congr (tablero_conPcb { k with
        processBlocked := k.processBlocked.eraseIdx j
        processReady := k.processReady ++ [p]
        cantidadCarpinchosEnReady := k.cantidadCarpinchosEnReady + 1 }
        p { pcb with status := .ready })
    | none =>
      cases h
      exact ⟨.nadie, rfl⟩

theorem planificadorIo_jugada (h : k.planificadorIo = .ok k') :
    Jugada cfg k (.hilo .planificadorIo) [] k'.tablero := by
  unfold planificadorIo at h
  split at h
  · obtain ⟨n, -, h⟩ := bind_eq_ok.1 h
    split at h
    · cases h
    · cases h
      exact .quieta rfl
  · next pid _ =>
    exact .finIo (desbloquearPID_despierta (k := { k with rafagaIO := none }) h)

theorem finalizarProceso_jugada (h : k.finalizarProceso = .ok (o, k')) :
    Jugada cfg k (.hilo .finalizarProceso) (respondidos o) k'.tablero := by
  obtain ⟨n, -, h⟩ := bind_eq_ok.1 h
  dsimp only at h
  split at h
  · cases h
    exact .quieta rfl
  · next p ps hsalida =>
    obtain ⟨pcb, hpcb, h⟩ := bind_eq_ok.1 h
    cases h
    have hjugada := @Jugada.liberacion cfg k p ps (fichaDe pcb) hsalida
      (ficha_of_pcb (leerPcb_eq_ok.1 hpcb))
    refine hjugada.congr ?_
    have hficha : (fun q => (Function.update k.pcbs p none q).map fichaDe) =
        Function.update k.tablero.ficha p none := by
      funext q
      by_cases hq : q = p
      · subst hq
        simp
      · simp [hq, tablero]
    rw [← hficha]
    rfl

end Planificadores

section Detector

variable {cfg : Config} {k k' : Estado} {i : ℕ} {pid : ℤ} {ps resto : List ℕ}
  {accion : Estado → ℕ → Estado}

/-- The loop of `barrer` takes some control blocks out and treats them in order, and takes
out at least one if there is one with the PID. -/
theorem barrer_elegidos (h : barrer pid accion k ps = .ok (resto, k')) :
    ∃ elegidos, ps.Perm (resto ++ elegidos) ∧ k' = elegidos.foldl accion k ∧
      (ps.any (k.tienePid pid) = true → elegidos ≠ []) ∧
      (ps.any (k.tienePid pid) = false → elegidos = [] ∧ resto = ps) := by
  induction k, ps using barrer.induct accion generalizing resto k' with
  | case1 k =>
    cases h
    exact ⟨[], .refl _, rfl, by simp, by simp⟩
  | case2 k p =>
    obtain ⟨pcb, hpcb, h⟩ := bind_eq_ok.1 h
    have hpid := tienePid_of_leerPcb hpcb pid
    split at h
    · next heq =>
      cases h
      exact ⟨[p], .refl _, rfl, by simp, by simp [hpid, heq]⟩
    · next hne =>
      cases h
      exact ⟨[], .refl _, rfl, by simp [hpid, hne], by simp⟩
  | case3 k p q ps ih ih' =>
    obtain ⟨pcb, hpcb, h⟩ := bind_eq_ok.1 h
    have hpid := tienePid_of_leerPcb hpcb pid
    split at h
    · next heq =>
      obtain ⟨⟨r, k₁⟩, h₁, h⟩ := bind_eq_ok.1 h
      cases h
      obtain ⟨elegidos, hperm, hk, -, -⟩ := ih h₁
      have hmedio : (q :: r ++ p :: elegidos).Perm (p :: q :: (r ++ elegidos)) :=
        List.perm_middle
      refine ⟨p :: elegidos, ((hperm.cons q).cons p).trans hmedio.symm, hk, by simp, ?_⟩
      simp [hpid, heq]
    · next hne =>
      obtain ⟨⟨r, k₁⟩, h₁, h⟩ := bind_eq_ok.1 h
      cases h
      obtain ⟨elegidos, hperm, hk, halguno, hninguno⟩ := ih' h₁
      have hany : (p :: q :: ps).any (k.tienePid pid) = (q :: ps).any (k.tienePid pid) := by
        rw [List.any_cons, hpid, decide_eq_false hne, Bool.false_or]
      refine ⟨elegidos, hperm.cons p, hk, by rwa [hany], fun hno => ?_⟩
      obtain ⟨hel, hresto⟩ := hninguno (by rwa [hany] at hno)
      exact ⟨hel, by rw [hresto]⟩

theorem foldl_agregarReady_tablero (k : Estado) (ps : List ℕ) :
    (ps.foldl agregarReady k).tablero = { k.tablero with listos := k.processReady ++ ps } := by
  induction ps generalizing k with
  | nil => simp [tablero]
  | cons p ps ih =>
    rw [List.foldl_cons, ih]
    simp [agregarReady, tablero]

theorem foldl_liberarPcb_tablero (k : Estado) (ps : List ℕ) :
    (ps.foldl liberarPcb k).tablero =
      { k.tablero with ficha := fun q => if q ∈ ps then none else k.tablero.ficha q } := by
  induction ps generalizing k with
  | nil => simp [tablero]
  | cons p ps ih =>
    rw [List.foldl_cons, ih]
    have hficha : (fun q => if q ∈ ps then none else (k.liberarPcb p).tablero.ficha q) =
        fun q => if q ∈ p :: ps then none else k.tablero.ficha q := by
      funext q
      by_cases hq : q = p
      · subst hq
        simp [liberarPcb, tablero]
      · simp [liberarPcb, tablero, hq]
    rw [hficha]
    rfl

theorem pasarDeBloqueadoAReady_jugada (h : k.pasarDeBloqueadoAReady pid = .ok k') :
    Jugada cfg k (.reposicion pid) [] k'.tablero := by
  obtain ⟨⟨resto, k₁⟩, h₁, h⟩ := bind_eq_ok.1 h
  cases h
  obtain ⟨elegidos, hperm, rfl, halguno, hninguno⟩ := barrer_elegidos h₁
  have htablero := foldl_agregarReady_tablero k elegidos
  cases hpid : k.processBlocked.any (k.tienePid pid) with
  | true =>
    have hjugada := @Jugada.reposicion cfg k pid elegidos resto (halguno hpid) hpid hperm
    apply hjugada.congr
    exact congrArg (fun s : Tablero => { s with bloqueados := resto }) htablero
  | false =>
    obtain ⟨rfl, rfl⟩ := hninguno hpid
    exact .quieta (by rw [puedeQuedar, hpid]; rfl)

theorem terminarProceso_jugada (h : k.terminarProceso pid = .ok k') :
    Jugada cfg k (.terminacion pid) [] k'.tablero := by
  obtain ⟨⟨resto, k₁⟩, h₁, h⟩ := bind_eq_ok.1 h
  cases h
  obtain ⟨elegidos, hperm, rfl, -, hninguno⟩ := barrer_elegidos h₁
  have htablero := foldl_liberarPcb_tablero k elegidos
  have hpartes := List.take_append_drop (k.processBlocked.length - 1) k.processBlocked
  cases hpid : (k.processBlocked.take (k.processBlocked.length - 1)).any (k.tienePid pid) with
  | true =>
    have hpermuta : k.processBlocked.Perm
        (resto ++ k.processBlocked.drop (k.processBlocked.length - 1) ++ elegidos) := by
      have hresto := hperm.append_right (k.processBlocked.drop (k.processBlocked.length - 1))
      rw [hpartes, List.append_assoc] at hresto
      rw [List.append_assoc]
      exact hresto.trans (List.perm_append_comm.append_left resto)
    have hjugada := @Jugada.terminacion cfg k pid elegidos _ hpid hpermuta
    apply hjugada.congr
    exact congrArg (fun s : Tablero => { s with
      bloqueados := resto ++ k.processBlocked.drop (k.processBlocked.length - 1) }) htablero
  | false =>
    obtain ⟨rfl, rfl⟩ := hninguno hpid
    rw [hpartes]
    exact .quieta (by rw [puedeQuedar, hpid]; rfl)

theorem reasignarProceso_tablero (h : reasignarProceso pid k ps = .ok k') :
    k'.tablero = k.tablero := by
  induction ps generalizing k with
  | nil =>
    cases h
    rfl
  | cons p ps ih =>
    obtain ⟨pcb, hpcb, h⟩ := bind_eq_ok.1 h
    split at h
    · rw [ih h]
      exact tablero_conPcb_self (leerPcb_eq_ok.1 hpcb) rfl
    · exact ih h

theorem chequearDeadlock_tablero (h : k.chequearDeadlock i = .ok k') : k'.tablero = k.tablero := by
  unfold chequearDeadlock at h
  split at h
  · obtain ⟨p, -, h⟩ := bind_eq_ok.1 h
    obtain ⟨pcb, -, h⟩ := bind_eq_ok.1 h
    obtain ⟨sospechoso, -, h⟩ := bind_eq_ok.1 h
    cases sospechoso with
    | none =>
      cases h
      rfl
    | some q =>
      obtain ⟨pcb', -, h⟩ := bind_eq_ok.1 h
      obtain ⟨semaforo, -, h⟩ := bind_eq_ok.1 h
      cases semaforo with
      | none => exact reasignarProceso_tablero h
      | some d => cases h
  · cases h
    rfl

end Detector

section Cpus

variable {cfg : Config} {k k' : Estado} {o : List Suceso} {c d : ℕ} {nombre : String}
  {sema : Semaforo} {pedido : Pedido}

theorem iniciarCiclo_jugada (hetapa : (k.cpusExec c).etapa = .ciclo)
    (h : k.iniciarCiclo c = .ok (o, k')) :
    Jugada cfg k (.hilo (.cpu c)) (respondidos o) k'.tablero := by
  obtain ⟨pcb, hpcb, h⟩ := bind_eq_ok.1 h
  have hpcb' := leerPcb_eq_ok.1 hpcb
  split at h
  · next hexec =>
    split at h
    · next hio =>
      cases h
      exact .hallaIo c (fichaDe pcb) hetapa (ficha_of_pcb hpcb') hexec hio
    · next hio =>
      cases h
      exact .escucha c (fichaDe pcb) hetapa (ficha_of_pcb hpcb') hexec (Bool.eq_false_iff.2 hio)
  · next hexec =>
    cases h
    exact .suelta c (fichaDe pcb) hetapa (ficha_of_pcb hpcb') hexec

theorem responderIo_jugada (hetapa : (k.cpusExec c).etapa = .respondiendoIo)
    (h : k.responderIo c = .ok (o, k')) :
    Jugada cfg k (.hilo (.cpu c)) (respondidos o) k'.tablero := by
  obtain ⟨pcb, -, h⟩ := bind_eq_ok.1 h
  cases h
  exact .respuestaIo c hetapa

theorem limpiarIo_jugada (hetapa : (k.cpusExec c).etapa = .limpiandoIo)
    (h : k.limpiarIo c = .ok (o, k')) :
    Jugada cfg k (.hilo (.cpu c)) (respondidos o) k'.tablero := by
  obtain ⟨pcb, hpcb, h⟩ := bind_eq_ok.1 h
  cases h
  have hjugada := @Jugada.limpiezaIo cfg k c (fichaDe pcb) hetapa
    (ficha_of_pcb (leerPcb_eq_ok.1 hpcb))
  apply hjugada.congr
  exact congrArg (fun s : Tablero => s.conEtapa c .recibiendo) (tablero_conPcb
    { k with uso := true } (k.cpusExec c).pcbCarpincho { pcb with ioFinished := false })

theorem reasignarProcesos_tablero {ps : List ℕ}
    (h : reasignarProcesos nombre k ps = .ok k') : k'.tablero = k.tablero := by
  induction ps generalizing k with
  | nil =>
    cases h
    rfl
  | cons p ps ih =>
    obtain ⟨pcb, hpcb, h⟩ := bind_eq_ok.1 h
    cases hreq : pcb.semaforoRequerido with
    | none =>
      rw [hreq] at h
      cases h
    | some requerido =>
      rw [hreq] at h
      dsimp only at h
      split at h
      · rw [ih h]
        exact tablero_conPcb_self (leerPcb_eq_ok.1 hpcb) rfl
      · exact ih h

theorem responder_fin {k₁ : Estado} {o : List Suceso}
    (hetapa : (k.cpusExec c).etapa.atendiendo = true) (h : k.tablero.Despierta k₁.tablero)
    (ho : respondidos o = []) :
    Jugada cfg k (.hilo (.cpu c)) (respondidos (k₁.responder c o).1)
      (k₁.responder c o).2.tablero := by
  have hcpus : k₁.cpusExec = k.cpusExec := h.cpu_eq
  have hproxima : k₁.proxima = k.proxima := h.proxima_eq
  have hrespondidos : respondidos (k₁.responder c o).1 = [(k.cpusExec c).pcbCarpincho] := by
    rw [responder, respondidos_append, ho, hcpus]
    rfl
  rw [hrespondidos]
  exact .fin c k₁.proxima hetapa hproxima.ge h

theorem pasoCpu_jugada (h : k.pasoCpu c = .ok (o, k')) :
    Jugada cfg k (.hilo (.cpu c)) (respondidos o) k'.tablero := by
  unfold pasoCpu at h
  cases hetapa : (k.cpusExec c).etapa with
  | esperando => rw [hetapa] at h; cases h
  | recibiendo => rw [hetapa] at h; cases h
  | asignada =>
    rw [hetapa] at h
    cases h
    exact .comienzo c hetapa
  | ciclo =>
    rw [hetapa] at h
    exact iniciarCiclo_jugada hetapa h
  | respondiendoIo =>
    rw [hetapa] at h
    exact responderIo_jugada hetapa h
  | limpiandoIo =>
    rw [hetapa] at h
    exact limpiarIo_jugada hetapa h
  | bloqueandoPorIo =>
    rw [hetapa] at h
    obtain ⟨pcb, hpcb, h⟩ := bind_eq_ok.1 h
    cases h
    have hjugada := @Jugada.bloqueoIo cfg k c (fichaDe pcb) hetapa
      (ficha_of_pcb (leerPcb_eq_ok.1 hpcb))
    apply hjugada.congr
    exact congrArg (fun s : Tablero => s.conEtapa c .ciclo) (tablero_conPcb { k with
      processBlocked := k.processBlocked ++ [(k.cpusExec c).pcbCarpincho] }
      (k.cpusExec c).pcbCarpincho { pcb with ioFinished := true })
  | creandoSemaforo nombre valor =>
    rw [hetapa] at h
    cases h
    exact .fin c (k.proxima + 1) (by rw [hetapa]; rfl) (Nat.le_succ _) .nadie
  | restandoSemaforo d =>
    rw [hetapa] at h
    obtain ⟨sem, -, h⟩ := bind_eq_ok.1 h
    obtain ⟨valor, -, h⟩ := bind_eq_ok.1 h
    cases h
    exact .fin c k.proxima (by rw [hetapa]; rfl) le_rfl .nadie
  | bloqueandoPorSemaforo =>
    rw [hetapa] at h
    cases h
    exact .bloqueoWait c hetapa
  | desbloqueando nombre =>
    rw [hetapa] at h
    obtain ⟨⟨o₁, k₁⟩, h₁, h⟩ := bind_eq_ok.1 h
    cases h
    obtain ⟨hdespierta, ho⟩ := desbloquearProcesoPorSemaforo_despierta h₁
    exact responder_fin (by rw [hetapa]; rfl) hdespierta ho
  | reasignando nombre d =>
    rw [hetapa] at h
    obtain ⟨k₁, h₁, h⟩ := bind_eq_ok.1 h
    cases h
    obtain ⟨k₂, h₂, h₁⟩ := bind_eq_ok.1 h₁
    cases h₁
    have hdespierta := Tablero.Despierta.nadie.congr (reasignarProcesos_tablero h₂)
    refine responder_fin (by rw [hetapa]; rfl) ?_ rfl
    exact hdespierta

section Peticiones

theorem crearSemaforoKernel_jugada {valor : ℤ} (hetapa : (k.cpusExec c).etapa = .recibiendo)
    (h : k.crearSemaforoKernel c nombre valor = .ok (o, k')) :
    Jugada cfg k (.hilo (.recibe c (.semaforo sema))) (respondidos o) k'.tablero := by
  obtain ⟨existe, -, h⟩ := bind_eq_ok.1 h
  cases existe with
  | none =>
    cases h
    exact .pedidoSemaforo c sema _ hetapa rfl
  | some position =>
    cases h
    exact .respuestaSemaforo c sema hetapa

theorem restarSem_jugada (hetapa : (k.cpusExec c).etapa = .recibiendo)
    (hop : sema.operacion = .wait) (h : k.restarSem c nombre = .ok (o, k')) :
    Jugada cfg k (.hilo (.recibe c (.semaforo sema))) (respondidos o) k'.tablero := by
  obtain ⟨existe, -, h⟩ := bind_eq_ok.1 h
  cases existe with
  | none =>
    cases h
    exact .respuestaSemaforo c sema hetapa
  | some position =>
    obtain ⟨d, -, h⟩ := bind_eq_ok.1 h
    obtain ⟨sem, -, h⟩ := bind_eq_ok.1 h
    split at h
    · cases h
      exact .pedidoSemaforo c sema _ hetapa rfl
    · obtain ⟨k₁, h₁, h⟩ := bind_eq_ok.1 h
      cases h
      obtain ⟨pcb, hpcb, rfl⟩ := conStatus_eq_ok h₁
      have hjugada := @Jugada.pedidoWait cfg k c sema (fichaDe pcb) hetapa
        (ficha_of_pcb hpcb) hop
      apply hjugada.congr
      exact congrArg (fun s : Tablero => s.conEtapa c .bloqueandoPorSemaforo)
        (tablero_conPcb k (k.cpusExec c).pcbCarpincho { pcb with status := .blocked })

theorem sumarSem_jugada (hetapa : (k.cpusExec c).etapa = .recibiendo)
    (h : k.sumarSem c nombre = .ok (o, k')) :
    Jugada cfg k (.hilo (.recibe c (.semaforo sema))) (respondidos o) k'.tablero := by
  obtain ⟨existe, -, h⟩ := bind_eq_ok.1 h
  cases existe with
  | none =>
    cases h
    exact .pedidoSemaforo c sema _ hetapa rfl
  | some position =>
    obtain ⟨d, -, h⟩ := bind_eq_ok.1 h
    obtain ⟨sem, -, h⟩ := bind_eq_ok.1 h
    obtain ⟨valor, -, h⟩ := bind_eq_ok.1 h
    cases h
    exact .pedidoSemaforo c sema (.desbloqueando nombre) hetapa rfl

theorem eliminarSemaforoKernel_jugada (hetapa : (k.cpusExec c).etapa = .recibiendo)
    (h : k.eliminarSemaforoKernel c nombre = .ok (o, k')) :
    Jugada cfg k (.hilo (.recibe c (.semaforo sema))) (respondidos o) k'.tablero := by
  obtain ⟨existe, -, h⟩ := bind_eq_ok.1 h
  cases existe with
  | none =>
    cases h
    exact .respuestaSemaforo c sema hetapa
  | some position =>
    obtain ⟨d, -, h⟩ := bind_eq_ok.1 h
    cases h
    exact .pedidoSemaforo c sema (.reasignando nombre d) hetapa rfl

/-- What a request does depends on the board alone. -/
theorem jugada_of_tablero {k₁ : Estado} {ps : List ℕ} {s : Tablero} (hk : k₁.tablero = k.tablero)
    (h : Jugada cfg k₁ (.hilo (.recibe c pedido)) ps s) :
    Jugada cfg k (.hilo (.recibe c pedido)) ps s := by
  have hcpus : k₁.cpusExec = k.cpusExec := congrArg Tablero.cpu hk
  have hexit : k₁.processExit = k.processExit := congrArg Tablero.salida hk
  cases h with
  | quieta hm => cases hm
  | memoria _ hetapa =>
    rw [hcpus] at hetapa
    rw [hk]
    exact .memoria c hetapa
  | pedidoIo _ nombre f hetapa hf =>
    rw [hcpus] at hetapa
    rw [hk, hcpus] at hf ⊢
    exact .pedidoIo c nombre f hetapa hf
  | pedidoWait _ sema f hetapa hf hop =>
    rw [hcpus] at hetapa
    rw [hk, hcpus] at hf ⊢
    exact .pedidoWait c sema f hetapa hf hop
  | pedidoSemaforo _ sema etapa hetapa hatiende =>
    rw [hcpus] at hetapa
    rw [hk]
    exact .pedidoSemaforo c sema etapa hetapa hatiende
  | respuestaSemaforo _ sema hetapa =>
    rw [hcpus] at hetapa ⊢
    rw [hk]
    exact .respuestaSemaforo c sema hetapa
  | finalizacion _ f hetapa hf =>
    rw [hcpus] at hetapa
    rw [hk, hcpus] at hf
    rw [hk, hcpus, hexit]
    exact .finalizacion c f hetapa hf

theorem operacionesSemaforo_jugada (hetapa : (k.cpusExec c).etapa = .recibiendo)
    (h : k.operacionesSemaforo c sema = .ok (o, k')) :
    Jugada cfg k (.hilo (.recibe c (.semaforo sema))) (respondidos o) k'.tablero := by
  obtain ⟨pcb, hpcb, h⟩ := bind_eq_ok.1 h
  have hk : (k.conPcb (k.cpusExec c).pcbCarpincho
      { pcb with semaforoRequerido := some sema.nombreSem }).tablero = k.tablero :=
    tablero_conPcb_self (leerPcb_eq_ok.1 hpcb) rfl
  apply jugada_of_tablero hk
  dsimp only at h
  cases hop : sema.operacion with
  | init =>
    rw [hop] at h
    exact crearSemaforoKernel_jugada hetapa h
  | wait =>
    rw [hop] at h
    exact restarSem_jugada hetapa hop h
  | post =>
    rw [hop] at h
    exact sumarSem_jugada hetapa h
  | destroy =>
    rw [hop] at h
    exact eliminarSemaforoKernel_jugada hetapa h
  | invalida =>
    rw [hop] at h
    cases h
    exact .respuestaSemaforo c sema hetapa

theorem recibir_jugada (hetapa : (k.cpusExec c).etapa = .recibiendo)
    (h : k.recibir c pedido = .ok (o, k')) :
    Jugada cfg k (.hilo (.recibe c pedido)) (respondidos o) k'.tablero := by
  cases pedido with
  | memoria =>
    cases h
    exact .memoria c hetapa
  | io nombre =>
    obtain ⟨pcb, hpcb, h⟩ := bind_eq_ok.1 h
    cases h
    have hjugada := @Jugada.pedidoIo cfg k c nombre (fichaDe pcb) hetapa
      (ficha_of_pcb (leerPcb_eq_ok.1 hpcb))
    apply hjugada.congr
    exact congrArg (fun s : Tablero => s.conEtapa c .bloqueandoPorIo)
      (tablero_conPcb k (k.cpusExec c).pcbCarpincho { pcb with status := .blocked })
  | semaforo sema =>
    have hk : { k with uso := false }.tablero = k.tablero := rfl
    exact jugada_of_tablero hk (operacionesSemaforo_jugada hetapa h)
  | finalizacion =>
    obtain ⟨pcb, hpcb, h⟩ := bind_eq_ok.1 h
    cases h
    have hjugada := @Jugada.finalizacion cfg k c (fichaDe pcb) hetapa
      (ficha_of_pcb (leerPcb_eq_ok.1 hpcb))
    apply hjugada.congr
    exact congrArg (fun s : Tablero => { s with
      salida := k.processExit ++ [(k.cpusExec c).pcbCarpincho] }.conEtapa c .ciclo)
      (tablero_conPcb k (k.cpusExec c).pcbCarpincho { pcb with status := .finished })
  | invalido => cases h

end Peticiones

end Cpus

section Paso

variable {cfg : Config} {k k' : Estado} {m : Turno} {o : List Suceso}

theorem llegada_jugada (k : Estado) (pid : ℤ) :
    Jugada cfg k (.hilo (.llegada pid)) [] (k.llegada pid).tablero := by
  apply (@Jugada.llegada cfg k pid).congr
  exact tablero_conPcb { k with
    proxima := k.proxima + 1
    planificacion := 0
    processNew := k.processNew ++ [k.proxima]
    procesoNuevo := k.procesoNuevo + 1 } k.proxima ⟨pid, none, false, .new⟩

/-- Every step is a move of the board. -/
theorem pasoTurno_jugada (h : pasoTurno cfg m k = .ok (o, k')) :
    Jugada cfg k m (respondidos o) k'.tablero := by
  cases m with
  | hilo e =>
    cases e with
    | llegada pid =>
      cases h
      exact llegada_jugada k pid
    | largoPlazo =>
      obtain ⟨k₁, h₁, h⟩ := bind_eq_ok.1 h
      cases h
      exact planificadorLargoPlazo_jugada h₁
    | cortoPlazo elegido =>
      obtain ⟨k₁, h₁, h⟩ := bind_eq_ok.1 h
      cases h
      unfold planificadorCortoPlazo at h₁
      split at h₁
      · next halg => exact planificarPorSJFSinDesalojo_jugada halg h₁
      · next halg => exact planificarPorHRRN_jugada halg h₁
    | medianoPlazo =>
      obtain ⟨k₁, h₁, h⟩ := bind_eq_ok.1 h
      cases h
      exact planificadorMedianoPlazo_jugada h₁
    | planificadorIo =>
      obtain ⟨k₁, h₁, h⟩ := bind_eq_ok.1 h
      cases h
      exact planificadorIo_jugada h₁
    | finalizarProceso => exact finalizarProceso_jugada h
    | cpu c => exact pasoCpu_jugada h
    | recibe c pedido =>
      rw [pasoTurno, paso] at h
      split at h
      · next hetapa => exact recibir_jugada hetapa h
      · cases h
  | sinCpu =>
    obtain ⟨k₁, h₁, h⟩ := bind_eq_ok.1 h
    cases h
    unfold perderAsignado at h₁
    split at h₁
    · next p hcorto =>
      cases h₁
      exact .perdida p hcorto
    · cases h₁
  | deteccion i =>
    obtain ⟨k₁, h₁, h⟩ := bind_eq_ok.1 h
    cases h
    exact Jugada.congr (.quieta rfl) (chequearDeadlock_tablero h₁)
  | reposicion pid =>
    obtain ⟨k₁, h₁, h⟩ := bind_eq_ok.1 h
    cases h
    exact pasarDeBloqueadoAReady_jugada h₁
  | terminacion pid =>
    obtain ⟨k₁, h₁, h⟩ := bind_eq_ok.1 h
    cases h
    exact terminarProceso_jugada h₁

end Paso

end Estado

end Carpinchos.Kernel
