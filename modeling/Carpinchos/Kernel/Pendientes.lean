import Carpinchos.Kernel.Cambio
import Carpinchos.Library.Queues

/-!
# Pending operations

A carpincho is put among the blocked ones by a WAIT or by a request for IO, and both kinds
share the lists. The kernel is run together with a record of the operation that each of
them waits for. The detector of deadlocks is a thread more: where it finds no semaphore it
erases the one that the carpincho requires, and where it finds one it reads a PID past the
end of the record of the semaphore.
-/

namespace Carpinchos.Kernel

open Outcome

namespace Estado

section Deteccion

/-- `conseguirPcb` leaves out the last blocked carpincho. -/
def conseguirPcb (k : Estado) (pid : ℤ) : Except Falla (Option ℕ) := do
  match ← k.buscarPid pid (k.processBlocked.take (k.processBlocked.length - 1)) 0 with
  | some i =>
    let p ← listGet k.processBlocked i
    .ok (some p)
  | none => .ok none

/-- `conseguirSemaforo` leaves out the last semaphore. A name that is not set is read when
there is one to compare it with. -/
def conseguirSemaforo (k : Estado) (semNombre : Option String) : Except Falla (Option ℕ) :=
  let semaforos := k.semaforosKernel.take (k.semaforosKernel.length - 1)
  match semNombre with
  | some nombre => k.buscarSem nombre semaforos 0
  | none => if semaforos = [] then .ok none else .error .punteroInvalido

/-- `reasignarProceso` when it is given no semaphore. -/
def reasignarProceso (unPid : ℤ) : Estado → List ℕ → Except Falla Estado
  | k, [] => .ok k
  | k, p :: ps => do
    let pcb ← k.leerPcb p
    if pcb.pid = unPid then
      reasignarProceso unPid (k.conPcb p { pcb with semaforoRequerido := none }) ps
    else reasignarProceso unPid k ps

/-- `comprobarDeadlock` from an empty list of suspects. -/
def comprobarDeadlock (k : Estado) (pid : ℤ) : Except Falla Estado := do
  match ← k.conseguirPcb pid with
  | none => .ok k
  | some p =>
    let pcb ← k.leerPcb p
    match ← k.conseguirSemaforo pcb.semaforoRequerido with
    | some _ => .error .punteroInvalido
    | none => reasignarProceso pcb.pid k k.processBlocked

/-- A turn of the loop of `chequearDeadlock`. -/
def chequearDeadlock (k : Estado) (i : ℕ) : Except Falla Estado := do
  if i < k.processBlocked.length - 1 then
    let p ← listGet k.processBlocked i
    let pcb ← k.leerPcb p
    k.comprobarDeadlock pcb.pid
  else .ok k

end Deteccion

section Bloqueados

/-- The blocked carpinchos, in the order in which a POST goes through them. -/
def bloqueados (k : Estado) : List ℕ := k.processSuspendedBlocked ++ k.processBlocked

def requerido (k : Estado) (p : ℕ) : Option String := (k.pcbs p).bind Pcb.semaforoRequerido

end Bloqueados

end Estado

def Etapa.bloqueando : Etapa → Bool
  | .bloqueandoPorIo | .bloqueandoPorSemaforo => true
  | _ => false

inductive Movimiento
  | hilo (e : Evento)
  | deteccion (i : ℕ)
  deriving DecidableEq, Repr

structure Registro where
  kernel : Estado
  pendiente : ℕ → Option Pedido

namespace Registro

def inicial (cfg : Config) : Registro := ⟨Kernel.inicial cfg, fun _ => none⟩

/-- The request that has just made a CPU block its carpincho. -/
def recienPedido (m : Movimiento) (k' : Estado) : Option (ℕ × Pedido) :=
  match m with
  | .hilo (.recibe c pedido) =>
    if (k'.cpusExec c).etapa.bloqueando then some ((k'.cpusExec c).pcbCarpincho, pedido) else none
  | _ => none

/-- An operation is pending from its request until the carpincho leaves the blocked ones. -/
def pendienteTras (r : Registro) (m : Movimiento) (k' : Estado) (p : ℕ) : Option Pedido :=
  match recienPedido m k' with
  | some (q, pedido) => if p = q then some pedido else r.pendiente p
  | none => if p ∈ r.kernel.bloqueados ∧ p ∉ k'.bloqueados then none else r.pendiente p

def pasoKernel (cfg : Config) : Movimiento → Estado → Except Falla (List Suceso × Estado)
  | .hilo e, k => Estado.paso cfg e k
  | .deteccion i, k => do .ok ([], ← k.chequearDeadlock i)

def paso (cfg : Config) (m : Movimiento) (r : Registro) :
    Except Falla (List Suceso × Registro) := do
  let (sucesos, k') ← pasoKernel cfg m r.kernel
  .ok (sucesos, ⟨k', r.pendienteTras m k'⟩)

end Registro

namespace Estado

structure Tranquilo (k k' : Estado) : Prop where
  bloqueados : k'.bloqueados.Subperm k.bloqueados
  etapas : ∀ c, (k'.cpusExec c).etapa.bloqueando → (k.cpusExec c).etapa.bloqueando ∧
    (k'.cpusExec c).pcbCarpincho = (k.cpusExec c).pcbCarpincho
  requerido : ∀ p, k'.requerido p = k.requerido p ∨ k'.requerido p = none

section Tranquilo

variable {k k' k'' : Estado} {c p : ℕ} {pcb : Pcb}

theorem Tranquilo.refl (k : Estado) : k.Tranquilo k :=
  ⟨List.Subperm.refl _, fun _ h => ⟨h, rfl⟩, fun _ => Or.inl rfl⟩

theorem Tranquilo.trans (h : k.Tranquilo k') (h' : k'.Tranquilo k'') : k.Tranquilo k'' where
  bloqueados := h'.bloqueados.trans h.bloqueados
  etapas c hc := by
    obtain ⟨hc', hpcb'⟩ := h'.etapas c hc
    obtain ⟨hc'', hpcb⟩ := h.etapas c hc'
    exact ⟨hc'', hpcb'.trans hpcb⟩
  requerido p := by
    rcases h'.requerido p with hp | hp
    · rw [hp]
      exact h.requerido p
    · exact Or.inr hp

theorem Tranquilo.of_campos (hpcbs : k'.pcbs = k.pcbs) (hcpus : k'.cpusExec = k.cpusExec)
    (hbloqueados : k'.bloqueados.Subperm k.bloqueados) : k.Tranquilo k' where
  bloqueados := hbloqueados
  etapas c hc := by
    rw [hcpus] at hc ⊢
    exact ⟨hc, rfl⟩
  requerido p := Or.inl (by rw [Estado.requerido, hpcbs, Estado.requerido])

theorem requerido_conPcb (k : Estado) (p : ℕ) (pcb : Pcb) (q : ℕ) :
    (k.conPcb p pcb).requerido q = if q = p then pcb.semaforoRequerido else k.requerido q := by
  unfold requerido conPcb
  by_cases hq : q = p
  · subst hq
    simp
  · simp [hq]

theorem Tranquilo.conPcb (h : k.Tranquilo k') {pcb' : Pcb} (hp : k'.pcbs p = some pcb')
    (hreq : pcb.semaforoRequerido = pcb'.semaforoRequerido ∨ pcb.semaforoRequerido = none) :
    k.Tranquilo (k'.conPcb p pcb) where
  bloqueados := h.bloqueados
  etapas := h.etapas
  requerido q := by
    rw [requerido_conPcb]
    split
    · next hq =>
      subst hq
      rcases hreq with hreq | hreq
      · have hq := h.requerido q
        rw [Estado.requerido, hp, Option.bind_some] at hq
        rwa [hreq]
      · exact Or.inr hreq
    · exact h.requerido q

theorem Tranquilo.conCpu {cpu : Cpu} (h : k.Tranquilo k') (c : ℕ)
    (hcpu : cpu.etapa.bloqueando = false) : k.Tranquilo (k'.conCpu c cpu) where
  bloqueados := h.bloqueados
  etapas c' hc := by
    simp only [Estado.conCpu, Function.update_apply] at hc ⊢
    split at hc
    · rw [hcpu] at hc
      cases hc
    · next hne =>
      rw [if_neg hne]
      exact h.etapas c' hc
  requerido := h.requerido

theorem Tranquilo.conEtapa {etapa : Etapa} (h : k.Tranquilo k') (c : ℕ)
    (hetapa : etapa.bloqueando = false) : k.Tranquilo (k'.conEtapa c etapa) := h.conCpu c hetapa

theorem Tranquilo.responder (h : k.Tranquilo k') (c : ℕ) (o : List Suceso) :
    k.Tranquilo (k'.responder c o).2 := h.conEtapa c rfl

theorem conStatus_tranquilo {status : Status} (h : k.conStatus p status = .ok k') :
    k.Tranquilo k' ∧ k'.processBlocked = k.processBlocked ∧
      k'.processSuspendedBlocked = k.processSuspendedBlocked := by
  obtain ⟨pcb, hpcb, h⟩ := bind_eq_ok.1 h
  cases h
  exact ⟨(Tranquilo.refl k).conPcb (leerPcb_eq_ok.1 hpcb) (Or.inl rfl), rfl, rfl⟩

end Tranquilo

section Planificadores

variable {cfg : Config} {k k' : Estado} {o : List Suceso} {c p i : ℕ} {pid : ℤ} {nombre : String}

theorem planificadorLargoPlazo_tranquilo (h : k.planificadorLargoPlazo = .ok k') :
    k.Tranquilo k' := by
  unfold planificadorLargoPlazo at h
  cases hetapa : k.largoPlazo with
  | esperandoNuevo =>
    simp only [hetapa] at h
    obtain ⟨n, -, h⟩ := bind_eq_ok.1 h
    split at h <;> cases h <;> exact .of_campos rfl rfl (List.Subperm.refl _)
  | esperandoLugar =>
    simp only [hetapa] at h
    obtain ⟨n, -, h⟩ := bind_eq_ok.1 h
    obtain ⟨⟨p, ps⟩, -, h⟩ := bind_eq_ok.1 h
    cases h
    exact .of_campos rfl rfl (List.Subperm.refl _)
  | agregado =>
    simp only [hetapa] at h
    split at h <;> cases h <;> exact .of_campos rfl rfl (List.Subperm.refl _)
  | durmiendo =>
    simp only [hetapa] at h
    cases h
    exact .of_campos rfl rfl (List.Subperm.refl _)

theorem asignarCPU_tranquilo (h : k.asignarCPU cfg p = .ok k') : k.Tranquilo k' := by
  obtain ⟨c, -, h⟩ := bind_eq_ok.1 h
  cases h
  exact (Tranquilo.refl k).conCpu c rfl

theorem planificarPorSJFSinDesalojo_tranquilo
    (h : k.planificarPorSJFSinDesalojo cfg i = .ok k') : k.Tranquilo k' := by
  unfold planificarPorSJFSinDesalojo at h
  cases hetapa : k.cortoPlazo with
  | esperandoListo =>
    simp only [hetapa] at h
    obtain ⟨n, -, h⟩ := bind_eq_ok.1 h
    cases h
    exact .of_campos rfl rfl (List.Subperm.refl _)
  | esperandoPlanificar =>
    simp only [hetapa] at h
    obtain ⟨n, -, h⟩ := bind_eq_ok.1 h
    split at h
    · obtain ⟨⟨p, k₁⟩, h₁, h⟩ := bind_eq_ok.1 h
      obtain ⟨p', -, h₁⟩ := bind_eq_ok.1 h₁
      cases h₁
      obtain ⟨k₂, h₂, h⟩ := bind_eq_ok.1 h
      cases h
      have h₂' := (conStatus_tranquilo h₂).1
      exact ⟨h₂'.bloqueados, h₂'.etapas, h₂'.requerido⟩
    · cases h
      exact .of_campos rfl rfl (List.Subperm.refl _)
  | asignando p =>
    simp only [hetapa] at h
    obtain ⟨k₁, h₁, h⟩ := bind_eq_ok.1 h
    cases h
    exact (asignarCPU_tranquilo h₁).trans (.of_campos rfl rfl (List.Subperm.refl _))

theorem planificarPorHRRN_tranquilo (h : k.planificarPorHRRN i = .ok k') : k.Tranquilo k' := by
  unfold planificarPorHRRN at h
  split at h
  · obtain ⟨n, -, h⟩ := bind_eq_ok.1 h
    cases h
    exact .of_campos rfl rfl (List.Subperm.refl _)
  · obtain ⟨n, -, h⟩ := bind_eq_ok.1 h
    obtain ⟨p, -, h⟩ := bind_eq_ok.1 h
    obtain ⟨k₁, h₁, h⟩ := bind_eq_ok.1 h
    cases h
    exact (conStatus_tranquilo h₁).1.trans (.of_campos rfl rfl (List.Subperm.refl _))

/-- A suspension moves the last blocked carpincho from one list to the other. -/
theorem planificadorMedianoPlazo_tranquilo (h : k.planificadorMedianoPlazo = .ok k') :
    k.Tranquilo k' := by
  unfold planificadorMedianoPlazo at h
  split at h
  · cases h
  · obtain ⟨n, -, h⟩ := bind_eq_ok.1 h
    dsimp only at h
    split at h
    · obtain ⟨p, hp, h⟩ := bind_eq_ok.1 h
      cases h
      have hperm := Queues.cons_eraseIdx_perm (listGet_eq_ok.1 hp)
      refine .of_campos rfl rfl (List.Perm.subperm ?_)
      simpa only [bloqueados, List.append_assoc, List.singleton_append] using
        hperm.append_left k.processSuspendedBlocked
    · cases h
      exact .of_campos rfl rfl (List.Subperm.refl _)

theorem desbloquearPID_tranquilo (h : k.desbloquearPID pid = .ok k') : k.Tranquilo k' := by
  obtain ⟨bloqueado, -, h⟩ := bind_eq_ok.1 h
  cases bloqueado with
  | some i =>
    obtain ⟨p, -, h⟩ := bind_eq_ok.1 h
    obtain ⟨k₁, h₁, h⟩ := bind_eq_ok.1 h
    cases h
    obtain ⟨htranquilo, hblocked, hsuspended⟩ := conStatus_tranquilo h₁
    refine htranquilo.trans (.of_campos rfl rfl ?_)
    rw [bloqueados, bloqueados, hblocked]
    exact ((List.eraseIdx_sublist _ _).append_left _).subperm
  | none =>
    obtain ⟨suspendido, -, h⟩ := bind_eq_ok.1 h
    cases suspendido with
    | some i =>
      dsimp only at h
      split at h
      · cases h
      · obtain ⟨p, -, h⟩ := bind_eq_ok.1 h
        cases h
        exact .of_campos rfl rfl ((List.eraseIdx_sublist _ _).append_right _).subperm
    | none =>
      cases h
      exact .refl k

theorem planificadorIo_tranquilo (h : k.planificadorIo = .ok k') : k.Tranquilo k' := by
  unfold planificadorIo at h
  split at h
  · obtain ⟨n, -, h⟩ := bind_eq_ok.1 h
    split at h
    · cases h
    · cases h
      exact .of_campos rfl rfl (List.Subperm.refl _)
  · have h' := desbloquearPID_tranquilo h
    exact ⟨h'.bloqueados, h'.etapas, h'.requerido⟩

theorem finalizarProceso_tranquilo (h : k.finalizarProceso = .ok (o, k')) : k.Tranquilo k' := by
  obtain ⟨n, -, h⟩ := bind_eq_ok.1 h
  dsimp only at h
  split at h
  · cases h
    exact .of_campos rfl rfl (List.Subperm.refl _)
  · obtain ⟨pcb, -, h⟩ := bind_eq_ok.1 h
    cases h
    refine ⟨List.Subperm.refl _, fun c hc => ⟨hc, rfl⟩, fun q => ?_⟩
    unfold requerido
    dsimp only
    rw [Function.update_apply]
    split
    · exact Or.inr rfl
    · exact Or.inl rfl

theorem iniciarCiclo_tranquilo (h : k.iniciarCiclo c = .ok (o, k')) : k.Tranquilo k' := by
  obtain ⟨pcb, -, h⟩ := bind_eq_ok.1 h
  have huso : k.Tranquilo { k with uso := true } := .of_campos rfl rfl (List.Subperm.refl _)
  split at h
  · split at h
    · cases h
      exact Tranquilo.conEtapa (.refl k) c rfl
    · cases h
      exact Tranquilo.conEtapa huso c rfl
  · cases h
    refine Tranquilo.conCpu ?_ c rfl
    exact .of_campos rfl rfl (List.Subperm.refl _)

theorem responderIo_tranquilo (h : k.responderIo c = .ok (o, k')) : k.Tranquilo k' := by
  obtain ⟨pcb, -, h⟩ := bind_eq_ok.1 h
  cases h
  exact Tranquilo.conEtapa (.refl k) c rfl

theorem limpiarIo_tranquilo (h : k.limpiarIo c = .ok (o, k')) : k.Tranquilo k' := by
  obtain ⟨pcb, hpcb, h⟩ := bind_eq_ok.1 h
  cases h
  have huso : k.Tranquilo { k with uso := true } := .of_campos rfl rfl (List.Subperm.refl _)
  refine Tranquilo.conEtapa ?_ c rfl
  exact huso.conPcb (leerPcb_eq_ok.1 hpcb) (Or.inl rfl)

theorem llegada_tranquilo (k : Estado) (pid : ℤ) : k.Tranquilo (k.llegada pid) := by
  refine ⟨List.Subperm.refl _, fun c hc => ⟨hc, rfl⟩, fun q => ?_⟩
  unfold requerido llegada
  dsimp only
  rw [Function.update_apply]
  split
  · exact Or.inr rfl
  · exact Or.inl rfl

theorem reasignarProceso_tranquilo {ps : List ℕ} (h : reasignarProceso pid k ps = .ok k') :
    k.Tranquilo k' := by
  induction ps generalizing k with
  | nil =>
    cases h
    exact .refl _
  | cons p ps ih =>
    obtain ⟨pcb, hpcb, h⟩ := bind_eq_ok.1 h
    split at h
    · exact ((Tranquilo.refl k).conPcb (leerPcb_eq_ok.1 hpcb) (Or.inr rfl)).trans (ih h)
    · exact ih h

theorem chequearDeadlock_tranquilo (h : k.chequearDeadlock i = .ok k') : k.Tranquilo k' := by
  unfold chequearDeadlock at h
  split at h
  · obtain ⟨p, -, h⟩ := bind_eq_ok.1 h
    obtain ⟨pcb, -, h⟩ := bind_eq_ok.1 h
    obtain ⟨sospechoso, -, h⟩ := bind_eq_ok.1 h
    cases sospechoso with
    | none =>
      cases h
      exact .refl k
    | some q =>
      obtain ⟨pcb', -, h⟩ := bind_eq_ok.1 h
      obtain ⟨semaforo, -, h⟩ := bind_eq_ok.1 h
      cases semaforo with
      | none => exact reasignarProceso_tranquilo h
      | some d => cases h
  · cases h
    exact .refl k

end Planificadores

section Peticiones

variable {cfg : Config} {k k' : Estado} {o : List Suceso} {c d : ℕ} {nombre : String}
  {pedido : Pedido} {sema : Semaforo}

/-- The request is one that blocks, for the semaphore that the control block names. -/
def Justifica (k : Estado) (p : ℕ) (pedido : Pedido) : Prop :=
  (∃ nombre, pedido = .io nombre) ∨
    ∃ sema, pedido = .semaforo sema ∧ sema.operacion = .wait ∧
      (k.requerido p = some sema.nombreSem ∨ k.requerido p = none)

/-- What a step does to the blocked carpinchos: nothing new, a request on a CPU, which may
be about to block its carpincho, or the entry of that carpincho. -/
inductive Bloqueo (k : Estado) : Movimiento → Estado → Prop
  | tranquilo {m : Movimiento} {k' : Estado} (hm : ∀ c pedido, m ≠ .hilo (.recibe c pedido))
      (h : k.Tranquilo k') : Bloqueo k m k'
  | recibe {c : ℕ} {pedido : Pedido} {k' : Estado} (hbloqueados : k'.bloqueados = k.bloqueados)
      (hetapas : ∀ c', c' ≠ c → k'.cpusExec c' = k.cpusExec c')
      (hpcb : (k'.cpusExec c).pcbCarpincho = (k.cpusExec c).pcbCarpincho)
      (hrequerido : ∀ p, p ≠ (k.cpusExec c).pcbCarpincho → k'.requerido p = k.requerido p)
      (h : (k'.cpusExec c).etapa.bloqueando →
        k'.Justifica (k.cpusExec c).pcbCarpincho pedido) :
      Bloqueo k (.hilo (.recibe c pedido)) k'
  | entra {c : ℕ} {k' : Estado} (hetapa : (k.cpusExec c).etapa.bloqueando)
      (hbloqueados : k'.bloqueados = k.bloqueados ++ [(k.cpusExec c).pcbCarpincho])
      (hetapas : ∀ c', c' ≠ c → k'.cpusExec c' = k.cpusExec c')
      (hc : (k'.cpusExec c).etapa.bloqueando = false)
      (hrequerido : ∀ p, k'.requerido p = k.requerido p) : Bloqueo k (.hilo (.cpu c)) k'

theorem reasignarProcesos_tranquilo {ps : List ℕ}
    (h : reasignarProcesos nombre k ps = .ok k') : k.Tranquilo k' := by
  induction ps generalizing k with
  | nil =>
    cases h
    exact .refl _
  | cons p ps ih =>
    obtain ⟨pcb, hpcb, h⟩ := bind_eq_ok.1 h
    cases hreq : pcb.semaforoRequerido with
    | none =>
      rw [hreq] at h
      cases h
    | some requerido =>
      rw [hreq] at h
      dsimp only at h
      split at h
      · exact ((Tranquilo.refl k).conPcb (leerPcb_eq_ok.1 hpcb) (Or.inl hreq.symm)).trans (ih h)
      · exact ih h

structure Atiende (c : ℕ) (k k' : Estado) : Prop where
  bloqueados : k'.bloqueados = k.bloqueados
  etapas : ∀ c', c' ≠ c → k'.cpusExec c' = k.cpusExec c'
  pcb : (k'.cpusExec c).pcbCarpincho = (k.cpusExec c).pcbCarpincho
  requerido : ∀ p, k'.requerido p = k.requerido p

theorem Atiende.refl (c : ℕ) (k : Estado) : Atiende c k k :=
  ⟨rfl, fun _ _ => rfl, rfl, fun _ => rfl⟩

theorem Atiende.conEtapa (h : Atiende c k k') (etapa : Etapa) :
    Atiende c k (k'.conEtapa c etapa) := by
  refine ⟨h.bloqueados, fun c' hc' => ?_, ?_, h.requerido⟩
  · rw [← h.etapas c' hc']
    exact Function.update_of_ne hc' _ _
  · rw [← h.pcb]
    simp [Estado.conEtapa, Estado.conCpu]

theorem Atiende.conPcb (h : Atiende c k k') {p : ℕ} (pcb : Pcb) {pcb' : Pcb}
    (hp : k'.pcbs p = some pcb)
    (hreq : pcb'.semaforoRequerido = pcb.semaforoRequerido) :
    Atiende c k (k'.conPcb p pcb') := by
  refine ⟨h.bloqueados, h.etapas, h.pcb, fun q => ?_⟩
  rw [requerido_conPcb, ← h.requerido q]
  split
  · next hq =>
    subst hq
    rw [Estado.requerido, hp, Option.bind_some, hreq]
  · rfl

@[simp] theorem etapa_conEtapa (k : Estado) (c : ℕ) (etapa : Etapa) :
    ((k.conEtapa c etapa).cpusExec c).etapa = etapa := by
  simp [Estado.conEtapa, Estado.conCpu]

theorem conStatus_atiende {p : ℕ} {status : Status} (h : k.conStatus p status = .ok k') :
    Atiende c k k' := by
  obtain ⟨pcb, hpcb, h⟩ := bind_eq_ok.1 h
  cases h
  exact (Atiende.refl c k).conPcb pcb (leerPcb_eq_ok.1 hpcb) rfl

theorem Atiende.trans {k'' : Estado} (h : Atiende c k k') (h' : Atiende c k' k'') :
    Atiende c k k'' where
  bloqueados := h'.bloqueados.trans h.bloqueados
  etapas c' hc' := (h'.etapas c' hc').trans (h.etapas c' hc')
  pcb := h'.pcb.trans h.pcb
  requerido p := (h'.requerido p).trans (h.requerido p)

theorem crearSemaforoKernel_atiende {valor : ℤ}
    (h : k.crearSemaforoKernel c nombre valor = .ok (o, k')) :
    Atiende c k k' ∧ (k'.cpusExec c).etapa.bloqueando = false := by
  obtain ⟨existe, -, h⟩ := bind_eq_ok.1 h
  cases existe with
  | none =>
    cases h
    exact ⟨(Atiende.refl c k).conEtapa _, by rw [etapa_conEtapa]; rfl⟩
  | some position =>
    cases h
    exact ⟨(Atiende.refl c k).conEtapa _, by rw [etapa_conEtapa]; rfl⟩

theorem restarSem_atiende (h : k.restarSem c nombre = .ok (o, k')) : Atiende c k k' := by
  obtain ⟨existe, -, h⟩ := bind_eq_ok.1 h
  cases existe with
  | none =>
    cases h
    exact (Atiende.refl c k).conEtapa _
  | some position =>
    obtain ⟨d, -, h⟩ := bind_eq_ok.1 h
    obtain ⟨sem, -, h⟩ := bind_eq_ok.1 h
    split at h
    · cases h
      exact (Atiende.refl c k).conEtapa _
    · obtain ⟨k₁, h₁, h⟩ := bind_eq_ok.1 h
      cases h
      exact (conStatus_atiende h₁).conEtapa _

theorem sumarSem_atiende (h : k.sumarSem c nombre = .ok (o, k')) :
    Atiende c k k' ∧ (k'.cpusExec c).etapa = .desbloqueando nombre := by
  obtain ⟨existe, -, h⟩ := bind_eq_ok.1 h
  cases existe with
  | none =>
    cases h
    exact ⟨(Atiende.refl c k).conEtapa _, etapa_conEtapa _ _ _⟩
  | some position =>
    obtain ⟨d, -, h⟩ := bind_eq_ok.1 h
    obtain ⟨sem, -, h⟩ := bind_eq_ok.1 h
    obtain ⟨valor, -, h⟩ := bind_eq_ok.1 h
    cases h
    refine ⟨Atiende.conEtapa ?_ _, etapa_conEtapa _ _ _⟩
    exact ⟨rfl, fun _ _ => rfl, rfl, fun _ => rfl⟩

theorem eliminarSemaforoKernel_atiende
    (h : k.eliminarSemaforoKernel c nombre = .ok (o, k')) :
    Atiende c k k' ∧ (k'.cpusExec c).etapa.bloqueando = false := by
  obtain ⟨existe, -, h⟩ := bind_eq_ok.1 h
  cases existe with
  | none =>
    cases h
    exact ⟨(Atiende.refl c k).conEtapa _, by rw [etapa_conEtapa]; rfl⟩
  | some position =>
    obtain ⟨d, -, h⟩ := bind_eq_ok.1 h
    cases h
    refine ⟨Atiende.conEtapa ?_ _, by rw [etapa_conEtapa]; rfl⟩
    exact ⟨rfl, fun _ _ => rfl, rfl, fun _ => rfl⟩

/-- A request for a semaphore blocks only if it is a WAIT. -/
theorem operacionesSemaforo_bloqueo (h : k.operacionesSemaforo c sema = .ok (o, k')) :
    ∃ pcb : Pcb, Atiende c (k.conPcb (k.cpusExec c).pcbCarpincho
        { pcb with semaforoRequerido := some sema.nombreSem }) k' ∧
      ((k'.cpusExec c).etapa.bloqueando → sema.operacion = .wait) := by
  obtain ⟨pcb, -, h⟩ := bind_eq_ok.1 h
  refine ⟨pcb, ?_⟩
  have hno {k' : Estado} (hetapa : (k'.cpusExec c).etapa.bloqueando = false) :
      (k'.cpusExec c).etapa.bloqueando → sema.operacion = .wait := by
    intro hsi
    rw [hetapa] at hsi
    cases hsi
  cases hop : sema.operacion with
  | init =>
    simp only [hop] at h
    obtain ⟨hatiende, hetapa⟩ := crearSemaforoKernel_atiende h
    exact ⟨hatiende, hop ▸ hno hetapa⟩
  | wait =>
    simp only [hop] at h
    exact ⟨restarSem_atiende h, fun _ => rfl⟩
  | post =>
    simp only [hop] at h
    obtain ⟨hatiende, hetapa⟩ := sumarSem_atiende h
    exact ⟨hatiende, hop ▸ hno (by rw [hetapa]; rfl)⟩
  | destroy =>
    simp only [hop] at h
    obtain ⟨hatiende, hetapa⟩ := eliminarSemaforoKernel_atiende h
    exact ⟨hatiende, hop ▸ hno hetapa⟩
  | invalida =>
    simp only [hop] at h
    cases h
    exact ⟨(Atiende.refl c _).conEtapa _, hop ▸ hno (by rw [etapa_conEtapa]; rfl)⟩

theorem recibir_bloqueo (h : k.recibir c pedido = .ok (o, k')) :
    Bloqueo k (.hilo (.recibe c pedido)) k' := by
  have huso : Atiende c k { k with uso := false } := ⟨rfl, fun _ _ => rfl, rfl, fun _ => rfl⟩
  have hquieto {k' : Estado} {pedido : Pedido} (ha : Atiende c k k')
      (hetapa : (k'.cpusExec c).etapa.bloqueando = false) :
      Bloqueo k (.hilo (.recibe c pedido)) k' := by
    refine .recibe ha.bloqueados ha.etapas ha.pcb (fun p _ => ha.requerido p) fun hsi => ?_
    rw [hetapa] at hsi
    cases hsi
  cases pedido with
  | memoria =>
    cases h
    exact hquieto (huso.conEtapa _) (by rw [etapa_conEtapa]; rfl)
  | io nombre =>
    obtain ⟨pcb, hpcb, h⟩ := bind_eq_ok.1 h
    cases h
    have hatiende : Atiende c k (((k.conPcb (k.cpusExec c).pcbCarpincho
        { pcb with status := .blocked }).encolarIo pcb.pid).conEtapa c .bloqueandoPorIo) := by
      refine Atiende.conEtapa ?_ _
      have hestado : Atiende c k (k.conPcb (k.cpusExec c).pcbCarpincho
          { pcb with status := .blocked }) :=
        (Atiende.refl c k).conPcb pcb (leerPcb_eq_ok.1 hpcb) rfl
      exact hestado.trans ⟨rfl, fun _ _ => rfl, rfl, fun _ => rfl⟩
    exact .recibe hatiende.bloqueados hatiende.etapas hatiende.pcb
      (fun p _ => hatiende.requerido p) fun _ => Or.inl ⟨nombre, rfl⟩
  | semaforo sema =>
    obtain ⟨pcb, hatiende, hetapa⟩ := operacionesSemaforo_bloqueo h
    refine .recibe hatiende.bloqueados hatiende.etapas hatiende.pcb (fun p hp => ?_)
      fun hsi => Or.inr ⟨sema, rfl, hetapa hsi, Or.inl ?_⟩
    · rw [hatiende.requerido, requerido_conPcb, if_neg hp]
      rfl
    · rw [hatiende.requerido, requerido_conPcb, if_pos rfl]
  | finalizacion =>
    obtain ⟨pcb, hpcb, h⟩ := bind_eq_ok.1 h
    cases h
    refine hquieto (Atiende.conEtapa ?_ _) (by rw [etapa_conEtapa]; rfl)
    have hestado : Atiende c k ({ k with uso := false }.conPcb (k.cpusExec c).pcbCarpincho
        { pcb with status := .finished }) :=
      huso.conPcb pcb (leerPcb_eq_ok.1 hpcb) rfl
    exact hestado.trans ⟨rfl, fun _ _ => rfl, rfl, fun _ => rfl⟩
  | invalido => cases h

theorem desbloquearProcesoPorSemaforo_tranquilo
    (h : k.desbloquearProcesoPorSemaforo nombre = .ok (o, k')) : k.Tranquilo k' := by
  obtain ⟨suspendido, -, h⟩ := bind_eq_ok.1 h
  cases suspendido with
  | some i =>
    dsimp only at h
    split at h
    · cases h
    · obtain ⟨p, -, h⟩ := bind_eq_ok.1 h
      cases h
      exact .of_campos rfl rfl ((List.eraseIdx_sublist _ _).append_right _).subperm
  | none =>
    obtain ⟨bloqueado, -, h⟩ := bind_eq_ok.1 h
    cases bloqueado with
    | some j =>
      obtain ⟨p, -, h⟩ := bind_eq_ok.1 h
      obtain ⟨k₁, h₁, h⟩ := bind_eq_ok.1 h
      cases h
      obtain ⟨htranquilo, hblocked, hsuspended⟩ := conStatus_tranquilo h₁
      refine htranquilo.trans (.of_campos rfl rfl ?_)
      rw [bloqueados, bloqueados, hblocked]
      exact ((List.eraseIdx_sublist _ _).append_left _).subperm
    | none =>
      cases h
      exact .refl k

theorem pasoCpu_bloqueo (h : k.pasoCpu c = .ok (o, k')) :
    Bloqueo k (.hilo (.cpu c)) k' := by
  unfold pasoCpu at h
  cases hetapa : (k.cpusExec c).etapa with
  | esperando =>
    simp only [hetapa] at h
    cases h
  | recibiendo =>
    simp only [hetapa] at h
    cases h
  | asignada =>
    simp only [hetapa] at h
    cases h
    have hplan : k.Tranquilo { k with planificacion := 0 } :=
      .of_campos rfl rfl (List.Subperm.refl _)
    exact .tranquilo (by simp) (Tranquilo.conEtapa hplan c rfl)
  | ciclo =>
    simp only [hetapa] at h
    exact .tranquilo (by simp) (iniciarCiclo_tranquilo h)
  | respondiendoIo =>
    simp only [hetapa] at h
    exact .tranquilo (by simp) (responderIo_tranquilo h)
  | limpiandoIo =>
    simp only [hetapa] at h
    exact .tranquilo (by simp) (limpiarIo_tranquilo h)
  | bloqueandoPorIo =>
    simp only [hetapa] at h
    obtain ⟨pcb, hpcb, h⟩ := bind_eq_ok.1 h
    cases h
    have hatiende : Atiende c { k with
        processBlocked := k.processBlocked ++ [(k.cpusExec c).pcbCarpincho] }
        (({ k with processBlocked := k.processBlocked ++ [(k.cpusExec c).pcbCarpincho] }.conPcb
          (k.cpusExec c).pcbCarpincho { pcb with ioFinished := true }).conEtapa c .ciclo) := by
      refine Atiende.conEtapa ?_ _
      refine Atiende.conPcb (.refl c _) pcb ?_ rfl
      exact leerPcb_eq_ok.1 hpcb
    refine .entra (by rw [hetapa]; rfl) ?_ hatiende.etapas (by rw [etapa_conEtapa]; rfl)
      hatiende.requerido
    rw [hatiende.bloqueados, bloqueados, bloqueados, List.append_assoc]
  | creandoSemaforo nombre valor =>
    simp only [hetapa] at h
    cases h
    have hagrega : k.Tranquilo (k.agregarSemaforo nombre valor) :=
      .of_campos rfl rfl (List.Subperm.refl _)
    exact .tranquilo (by simp) (hagrega.responder c [])
  | restandoSemaforo d =>
    simp only [hetapa] at h
    obtain ⟨sem, -, h⟩ := bind_eq_ok.1 h
    obtain ⟨valor, -, h⟩ := bind_eq_ok.1 h
    cases h
    have hresta : k.Tranquilo (k.conSemaforo d { sem with valor := valor }) :=
      .of_campos rfl rfl (List.Subperm.refl _)
    exact .tranquilo (by simp) (hresta.responder c [])
  | bloqueandoPorSemaforo =>
    simp only [hetapa] at h
    cases h
    have hatiende := (Atiende.refl c { k with
      processBlocked := k.processBlocked ++ [(k.cpusExec c).pcbCarpincho] }).conEtapa .ciclo
    refine .entra (by rw [hetapa]; rfl) ?_ hatiende.etapas (etapa_conEtapa _ _ _ ▸ rfl)
      hatiende.requerido
    exact (hatiende.bloqueados).trans (List.append_assoc _ _ _).symm
  | desbloqueando nombre =>
    simp only [hetapa] at h
    obtain ⟨⟨sucesos, k₁⟩, h₁, h⟩ := bind_eq_ok.1 h
    cases h
    exact .tranquilo (by simp) ((desbloquearProcesoPorSemaforo_tranquilo h₁).responder c sucesos)
  | reasignando nombre d =>
    simp only [hetapa] at h
    obtain ⟨k₁, h₁, h⟩ := bind_eq_ok.1 h
    cases h
    obtain ⟨k₂, h₂, h₁⟩ := bind_eq_ok.1 h₁
    cases h₁
    have hreasigna := reasignarProcesos_tranquilo h₂
    refine .tranquilo (by simp) (Tranquilo.responder ?_ c [])
    exact ⟨hreasigna.bloqueados, hreasigna.etapas, hreasigna.requerido⟩

end Peticiones

/-- What a move does to the blocked carpinchos, said once. -/
theorem pasoKernel_bloqueo {cfg : Config} {m : Movimiento} {k k' : Estado} {o : List Suceso}
    (h : Registro.pasoKernel cfg m k = .ok (o, k')) : Bloqueo k m k' := by
  cases m with
  | deteccion i =>
    obtain ⟨k₁, h₁, h⟩ := bind_eq_ok.1 h
    cases h
    exact .tranquilo (by simp) (chequearDeadlock_tranquilo h₁)
  | hilo e =>
    cases e with
    | llegada pid =>
      cases h
      exact .tranquilo (by simp) (llegada_tranquilo k pid)
    | largoPlazo =>
      obtain ⟨k₁, h₁, h⟩ := bind_eq_ok.1 h
      cases h
      exact .tranquilo (by simp) (planificadorLargoPlazo_tranquilo h₁)
    | cortoPlazo elegido =>
      obtain ⟨k₁, h₁, h⟩ := bind_eq_ok.1 h
      cases h
      unfold planificadorCortoPlazo at h₁
      split at h₁
      · exact .tranquilo (by simp) (planificarPorSJFSinDesalojo_tranquilo h₁)
      · exact .tranquilo (by simp) (planificarPorHRRN_tranquilo h₁)
    | medianoPlazo =>
      obtain ⟨k₁, h₁, h⟩ := bind_eq_ok.1 h
      cases h
      exact .tranquilo (by simp) (planificadorMedianoPlazo_tranquilo h₁)
    | planificadorIo =>
      obtain ⟨k₁, h₁, h⟩ := bind_eq_ok.1 h
      cases h
      exact .tranquilo (by simp) (planificadorIo_tranquilo h₁)
    | finalizarProceso => exact .tranquilo (by simp) (finalizarProceso_tranquilo h)
    | cpu c => exact pasoCpu_bloqueo h
    | recibe c pedido =>
      change (if _ then _ else _) = _ at h
      split at h
      · exact recibir_bloqueo h
      · cases h

end Estado

end Carpinchos.Kernel
