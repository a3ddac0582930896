import Carpinchos.Kernel.Listos

/-!
# IO bursts and suspensions

The requests for IO go through one queue and are served by one thread. A suspension takes the
lock of SUSPENDED_BLOCKED and never gives it back, so that nobody leaves that list and no other
carpincho enters it. Few steps concern the requests or the suspended ones; what the others leave
as it was is said once for each function.
-/

namespace Carpinchos.Kernel

open Outcome Runs

namespace Estado

section Aparte

def pidDe (k : Estado) (p : ℕ) : Option ℤ := (k.pcbs p).map Pcb.pid

structure Intacto (k k' : Estado) : Prop where
  cola : k'.colaIO = k.colaIO
  rafaga : k'.rafagaIO = k.rafagaIO
  cuenta : k'.ejecutarIO = k.ejecutarIO
  suspendidos : k'.processSuspendedBlocked = k.processSuspendedBlocked
  suspendidosListos : k'.processSuspendedReady = k.processSuspendedReady
  tomada : k'.colaSuspendedBlockedTomada = k.colaSuspendedBlockedTomada

structure Aparte (k k' : Estado) : Prop extends Intacto k k' where
  pids : ∀ p pid, k'.pidDe p = some pid → k.pidDe p = some pid

variable {k k' k'' : Estado} {c p : ℕ} {pcb pcb' : Pcb}

theorem Intacto.refl (k : Estado) : k.Intacto k := ⟨rfl, rfl, rfl, rfl, rfl, rfl⟩

theorem Intacto.trans (h : k.Intacto k') (h' : k'.Intacto k'') : k.Intacto k'' where
  cola := h'.cola.trans h.cola
  rafaga := h'.rafaga.trans h.rafaga
  cuenta := h'.cuenta.trans h.cuenta
  suspendidos := h'.suspendidos.trans h.suspendidos
  suspendidosListos := h'.suspendidosListos.trans h.suspendidosListos
  tomada := h'.tomada.trans h.tomada

theorem Aparte.refl (k : Estado) : k.Aparte k := ⟨.refl k, fun _ _ h => h⟩

theorem Aparte.trans (h : k.Aparte k') (h' : k'.Aparte k'') : k.Aparte k'' :=
  ⟨h.toIntacto.trans h'.toIntacto, fun p pid hpid => h.pids p pid (h'.pids p pid hpid)⟩

theorem pidDe_conPcb (k : Estado) (p : ℕ) (pcb : Pcb) (q : ℕ) :
    (k.conPcb p pcb).pidDe q = if q = p then some pcb.pid else k.pidDe q := by
  unfold pidDe conPcb
  by_cases hq : q = p
  · subst hq
    simp
  · simp [hq]

theorem Intacto.conPcb (h : k.Intacto k') (p : ℕ) (pcb : Pcb) : k.Intacto (k'.conPcb p pcb) :=
  ⟨h.cola, h.rafaga, h.cuenta, h.suspendidos, h.suspendidosListos, h.tomada⟩

theorem Aparte.conPcb (h : k.Aparte k') (hp : k'.pcbs p = some pcb) (hpid : pcb'.pid = pcb.pid) :
    k.Aparte (k'.conPcb p pcb') := by
  refine ⟨h.toIntacto.conPcb p pcb', fun q pid hq => ?_⟩
  rw [pidDe_conPcb] at hq
  split at hq
  · next heq =>
    subst heq
    obtain rfl := Option.some.inj hq
    rw [hpid]
    apply h.pids q pcb.pid
    rw [pidDe, hp, Option.map_some]
  · exact h.pids q pid hq

theorem Aparte.liberarPcb (h : k.Aparte k') (p : ℕ) : k.Aparte (k'.liberarPcb p) := by
  refine ⟨⟨h.cola, h.rafaga, h.cuenta, h.suspendidos, h.suspendidosListos, h.tomada⟩, ?_⟩
  intro q pid hq
  by_cases heq : q = p
  · subst heq
    simp [pidDe, Estado.liberarPcb] at hq
  · apply h.pids q pid
    simpa [pidDe, Estado.liberarPcb, heq] using hq

theorem Aparte.conCpu (h : k.Aparte k') (c : ℕ) (cpu : Cpu) : k.Aparte (k'.conCpu c cpu) :=
  ⟨⟨h.cola, h.rafaga, h.cuenta, h.suspendidos, h.suspendidosListos, h.tomada⟩, h.pids⟩

theorem Aparte.conEtapa (h : k.Aparte k') (c : ℕ) (etapa : Etapa) :
    k.Aparte (k'.conEtapa c etapa) := h.conCpu c _

theorem Aparte.responder (h : k.Aparte k') (c : ℕ) (o : List Suceso) :
    k.Aparte (k'.responder c o).2 := h.conEtapa c _

theorem Aparte.of_campos (hpcbs : k'.pcbs = k.pcbs)
    (h : (k'.processSuspendedBlocked, k'.processSuspendedReady, k'.colaSuspendedBlockedTomada,
      k'.colaIO, k'.rafagaIO, k'.ejecutarIO) =
        (k.processSuspendedBlocked, k.processSuspendedReady, k.colaSuspendedBlockedTomada,
          k.colaIO, k.rafagaIO, k.ejecutarIO)) : k.Aparte k' := by
  simp only [Prod.mk.injEq] at h
  obtain ⟨hsuspendidos, hlistos, htomada, hcola, hrafaga, hejecutar⟩ := h
  refine ⟨⟨hcola, hrafaga, hejecutar, hsuspendidos, hlistos, htomada⟩, fun p pid hpid => ?_⟩
  rw [pidDe, hpcbs] at hpid
  exact hpid

theorem conStatus_aparte {status : Status} (h : k.conStatus p status = .ok k') : k.Aparte k' := by
  obtain ⟨pcb, hpcb, rfl⟩ := conStatus_eq_ok h
  exact (Aparte.refl k).conPcb hpcb rfl

end Aparte

section Planificadores

variable {cfg : Config} {k k' : Estado} {o : List Suceso} {c p i : ℕ} {pid : ℤ} {nombre : String}

theorem planificadorLargoPlazo_aparte (h : k.planificadorLargoPlazo = .ok k') : k.Aparte k' := by
  unfold planificadorLargoPlazo at h
  cases hetapa : k.largoPlazo with
  | esperandoNuevo =>
    simp only [hetapa] at h
    obtain ⟨n, -, h⟩ := bind_eq_ok.1 h
    split at h <;> cases h <;> exact .of_campos rfl rfl
  | esperandoLugar =>
    simp only [hetapa] at h
    obtain ⟨n, -, h⟩ := bind_eq_ok.1 h
    obtain ⟨⟨p, ps⟩, -, h⟩ := bind_eq_ok.1 h
    cases h
    exact .of_campos rfl rfl
  | agregado =>
    simp only [hetapa] at h
    split at h <;> cases h <;> exact .of_campos rfl rfl
  | durmiendo =>
    simp only [hetapa] at h
    cases h
    exact .of_campos rfl rfl

theorem planificarPorSJFSinDesalojo_aparte (h : k.planificarPorSJFSinDesalojo cfg i = .ok k') :
    k.Aparte k' := by
  unfold planificarPorSJFSinDesalojo at h
  cases hetapa : k.cortoPlazo with
  | esperandoListo =>
    simp only [hetapa] at h
    obtain ⟨n, -, h⟩ := bind_eq_ok.1 h
    cases h
    exact .of_campos rfl rfl
  | esperandoPlanificar =>
    simp only [hetapa] at h
    obtain ⟨n, -, h⟩ := bind_eq_ok.1 h
    split at h
    · obtain ⟨⟨p, k₁⟩, h₁, h⟩ := bind_eq_ok.1 h
      obtain ⟨p', -, h₁⟩ := bind_eq_ok.1 h₁
      cases h₁
      obtain ⟨k₂, h₂, h⟩ := bind_eq_ok.1 h
      cases h
      have hmarca := conStatus_aparte h₂
      exact ⟨⟨hmarca.cola, hmarca.rafaga, hmarca.cuenta, hmarca.suspendidos,
        hmarca.suspendidosListos, hmarca.tomada⟩, hmarca.pids⟩
    · cases h
      exact .of_campos rfl rfl
  | asignando p =>
    simp only [hetapa] at h
    obtain ⟨k₁, h₁, h⟩ := bind_eq_ok.1 h
    cases h
    obtain ⟨c, -, -, rfl⟩ := asignarCPU_eq_ok h₁
    exact .of_campos rfl rfl

theorem planificarPorHRRN_aparte (h : k.planificarPorHRRN i = .ok k') : k.Aparte k' := by
  unfold planificarPorHRRN at h
  split at h
  · obtain ⟨n, -, h⟩ := bind_eq_ok.1 h
    cases h
    exact .of_campos rfl rfl
  · obtain ⟨n, -, h⟩ := bind_eq_ok.1 h
    obtain ⟨p, -, h⟩ := bind_eq_ok.1 h
    obtain ⟨k₁, h₁, h⟩ := bind_eq_ok.1 h
    cases h
    exact (conStatus_aparte h₁).trans (.of_campos rfl rfl)

theorem finalizarProceso_aparte (h : k.finalizarProceso = .ok (o, k')) : k.Aparte k' := by
  obtain ⟨n, -, h⟩ := bind_eq_ok.1 h
  dsimp only at h
  split at h
  · cases h
    exact .of_campos rfl rfl
  · next p ps hsalida =>
    obtain ⟨pcb, -, h⟩ := bind_eq_ok.1 h
    cases h
    exact ((Aparte.refl k).liberarPcb p).trans (.of_campos rfl rfl)

theorem perderAsignado_aparte (h : k.perderAsignado = .ok k') : k.Aparte k' := by
  unfold perderAsignado at h
  split at h
  · cases h
    exact .of_campos rfl rfl
  · cases h

end Planificadores

section Detector

variable {k k' : Estado} {i : ℕ} {pid : ℤ} {ps resto : List ℕ} {accion : Estado → ℕ → Estado}

theorem reasignarProceso_aparte (h : reasignarProceso pid k ps = .ok k') : k.Aparte k' := by
  induction ps generalizing k with
  | nil =>
    cases h
    exact .refl _
  | cons p ps ih =>
    obtain ⟨pcb, hpcb, h⟩ := bind_eq_ok.1 h
    split at h
    · refine ((Aparte.refl k).conPcb (leerPcb_eq_ok.1 hpcb) ?_).trans (ih h)
      exact rfl
    · exact ih h

theorem chequearDeadlock_aparte (h : k.chequearDeadlock i = .ok k') : k.Aparte k' := by
  unfold chequearDeadlock at h
  split at h
  · obtain ⟨p, -, h⟩ := bind_eq_ok.1 h
    obtain ⟨pcb, -, h⟩ := bind_eq_ok.1 h
    obtain ⟨sospechoso, -, h⟩ := bind_eq_ok.1 h
    cases sospechoso with
    | none =>
      cases h
      exact .refl k
    | some q =>
      obtain ⟨pcb', -, h⟩ := bind_eq_ok.1 h
      obtain ⟨semaforo, -, h⟩ := bind_eq_ok.1 h
      cases semaforo with
      | none => exact reasignarProceso_aparte h
      | some d => cases h
  · cases h
    exact .refl k

theorem barrer_aparte (haccion : ∀ (k : Estado) (p : ℕ), k.Aparte (accion k p))
    (h : barrer pid accion k ps = .ok (resto, k')) : k.Aparte k' := by
  obtain ⟨elegidos, -, rfl, -⟩ := barrer_elegidos h
  clear h
  induction elegidos generalizing k with
  | nil => exact .refl k
  | cons p elegidos ih => exact (haccion k p).trans ih

theorem pasarDeBloqueadoAReady_aparte (h : k.pasarDeBloqueadoAReady pid = .ok k') :
    k.Aparte k' := by
  obtain ⟨⟨resto, k₁⟩, h₁, h⟩ := bind_eq_ok.1 h
  cases h
  have hagrega (k : Estado) (p : ℕ) : k.Aparte (k.agregarReady p) := .of_campos rfl rfl
  have hbarrer := barrer_aparte hagrega h₁
  exact hbarrer.trans (.of_campos rfl rfl)

theorem terminarProceso_aparte (h : k.terminarProceso pid = .ok k') : k.Aparte k' := by
  obtain ⟨⟨resto, k₁⟩, h₁, h⟩ := bind_eq_ok.1 h
  cases h
  have hbarrer := barrer_aparte (fun k p => (Aparte.refl k).liberarPcb p) h₁
  exact hbarrer.trans (.of_campos rfl rfl)

end Detector

section Cpus

variable {k k' : Estado} {o : List Suceso} {c d : ℕ} {nombre : String} {sema : Semaforo}
  {pid : ℤ}

theorem iniciarCiclo_aparte (h : k.iniciarCiclo c = .ok (o, k')) : k.Aparte k' := by
  obtain ⟨pcb, -, h⟩ := bind_eq_ok.1 h
  have huso : k.Aparte { k with uso := true } := .of_campos rfl rfl
  split at h
  · split at h
    · cases h
      exact (Aparte.refl k).conEtapa c _
    · cases h
      exact huso.conEtapa c _
  · cases h
    exact .of_campos rfl rfl

theorem responderIo_aparte (h : k.responderIo c = .ok (o, k')) : k.Aparte k' := by
  obtain ⟨pcb, -, h⟩ := bind_eq_ok.1 h
  cases h
  exact (Aparte.refl k).conEtapa c _

theorem limpiarIo_aparte (h : k.limpiarIo c = .ok (o, k')) : k.Aparte k' := by
  obtain ⟨pcb, hpcb, h⟩ := bind_eq_ok.1 h
  cases h
  have huso : k.Aparte { k with uso := true } := .of_campos rfl rfl
  refine (huso.conPcb (leerPcb_eq_ok.1 hpcb) ?_).conEtapa c _
  exact rfl

def loRequieren (k : Estado) (nombre : String) (ps : List ℕ) : Bool :=
  ps.any fun p => k.requerido p = some nombre

/-- Without its PID goes only a carpincho that names the semaphore. -/
theorem reasignarProcesos_intacto {ps : List ℕ} (h : reasignarProcesos nombre k ps = .ok k') :
    k.Intacto k' ∧ (k.loRequieren nombre ps = false → k' = k) := by
  induction ps generalizing k with
  | nil =>
    cases h
    exact ⟨.refl _, fun _ => rfl⟩
  | cons p ps ih =>
    obtain ⟨pcb, hpcb, h⟩ := bind_eq_ok.1 h
    have hpcb' := leerPcb_eq_ok.1 hpcb
    cases hreq : pcb.semaforoRequerido with
    | none =>
      rw [hreq] at h
      cases h
    | some requerido =>
      have hnombre : k.requerido p = some requerido := by
        rw [Estado.requerido, hpcb', Option.bind_some, hreq]
      rw [hreq] at h
      dsimp only at h
      split at h
      · next heq =>
        refine ⟨((Intacto.refl k).conPcb p _).trans (ih h).1, fun hno => ?_⟩
        rw [loRequieren, List.any_cons, hnombre, heq, decide_eq_true rfl, Bool.true_or] at hno
        cases hno
      · refine ⟨(ih h).1, fun hno => (ih h).2 ?_⟩
        rw [loRequieren, List.any_cons, Bool.or_eq_false_iff] at hno
        exact hno.2

theorem operacionesSemaforo_aparte (h : k.operacionesSemaforo c sema = .ok (o, k')) :
    k.Aparte k' := by
  obtain ⟨pcb, hpcb, h⟩ := bind_eq_ok.1 h
  have hnota : k.Aparte (k.conPcb (k.cpusExec c).pcbCarpincho
      { pcb with semaforoRequerido := some sema.nombreSem }) :=
    (Aparte.refl k).conPcb (leerPcb_eq_ok.1 hpcb) rfl
  cases hop : sema.operacion with
  | init =>
    simp only [hop] at h
    obtain ⟨existe, -, h⟩ := bind_eq_ok.1 h
    cases existe <;> cases h <;> exact hnota.conEtapa c _
  | wait =>
    simp only [hop] at h
    obtain ⟨existe, -, h⟩ := bind_eq_ok.1 h
    cases existe with
    | none =>
      cases h
      exact hnota.conEtapa c _
    | some position =>
      obtain ⟨d, -, h⟩ := bind_eq_ok.1 h
      obtain ⟨sem, -, h⟩ := bind_eq_ok.1 h
      split at h
      · cases h
        exact hnota.conEtapa c _
      · obtain ⟨k₁, h₁, h⟩ := bind_eq_ok.1 h
        cases h
        exact (hnota.trans (conStatus_aparte h₁)).conEtapa c _
  | post =>
    simp only [hop] at h
    obtain ⟨existe, -, h⟩ := bind_eq_ok.1 h
    cases existe with
    | none =>
      cases h
      exact hnota.conEtapa c _
    | some position =>
      obtain ⟨d, -, h⟩ := bind_eq_ok.1 h
      obtain ⟨sem, -, h⟩ := bind_eq_ok.1 h
      obtain ⟨valor, -, h⟩ := bind_eq_ok.1 h
      cases h
      exact hnota.trans (.of_campos rfl rfl)
  | destroy =>
    simp only [hop] at h
    obtain ⟨existe, -, h⟩ := bind_eq_ok.1 h
    cases existe with
    | none =>
      cases h
      exact hnota.conEtapa c _
    | some position =>
      obtain ⟨d, -, h⟩ := bind_eq_ok.1 h
      cases h
      exact hnota.trans (.of_campos rfl rfl)
  | invalida =>
    simp only [hop] at h
    cases h
    exact hnota.conEtapa c _

end Cpus

section Suspendidos

variable {k k' : Estado} {o : List Suceso} {c p : ℕ} {pid : ℤ} {nombre : String}

/-- Whoever would take a carpincho out of the suspended ones waits for the lock, or there is
none to take. -/
def Cerrado (k : Estado) : Prop :=
  k.colaSuspendedBlockedTomada = true ∨ k.processSuspendedBlocked = []

theorem Intacto.cerrado (h : k.Intacto k') (hk : k.Cerrado) : k'.Cerrado := by
  rw [Cerrado, h.tomada, h.suspendidos]
  exact hk

theorem Cerrado.buscarPid (hk : k.Cerrado) {i : ℕ}
    (h : k.buscarPid pid k.processSuspendedBlocked 0 = .ok (some i)) :
    k.colaSuspendedBlockedTomada = true := by
  refine hk.resolve_right fun hno => ?_
  rw [hno] at h
  cases h

theorem Cerrado.buscarRequerido (hk : k.Cerrado) {i : ℕ}
    (h : k.buscarRequerido nombre k.processSuspendedBlocked 0 = .ok (some i)) :
    k.colaSuspendedBlockedTomada = true := by
  refine hk.resolve_right fun hno => ?_
  rw [hno] at h
  cases h

/-- The end of a burst finds its carpincho in BLOCKED, or nowhere. -/
theorem desbloquearPID_cerrado (hk : k.Cerrado) (h : k.desbloquearPID pid = .ok k') :
    (∃ i p pcb, k.processBlocked[i]? = some p ∧ k.pcbs p = some pcb ∧ pcb.pid = pid ∧
      k' = { k.conPcb p { pcb with status := .ready } with
        processBlocked := k.processBlocked.eraseIdx i
        processReady := k.processReady ++ [p]
        cantidadCarpinchosEnReady := k.cantidadCarpinchosEnReady + 1 }) ∨
      (∀ p ∈ k.processBlocked ++ k.processSuspendedBlocked, k.tienePid pid p = false) ∧
        k' = k := by
  obtain ⟨bloqueado, hbloqueado, h⟩ := bind_eq_ok.1 h
  have hfinds := finds_of_buscarPid hbloqueado
  cases bloqueado with
  | some i =>
    obtain ⟨p, hp, h⟩ := bind_eq_ok.1 h
    obtain ⟨k₁, h₁, h⟩ := bind_eq_ok.1 h
    cases h
    obtain ⟨pcb, hpcb, rfl⟩ := conStatus_eq_ok h₁
    have hp' := listGet_eq_ok.1 hp
    have htiene := List.find?_some (hfinds.of_zero hp')
    rw [tienePid, hpcb] at htiene
    exact Or.inl ⟨i, p, pcb, hp', hpcb, of_decide_eq_true htiene, rfl⟩
  | none =>
    obtain ⟨suspendido, hsuspendido, h⟩ := bind_eq_ok.1 h
    have hfinds' := finds_of_buscarPid hsuspendido
    cases suspendido with
    | some i =>
      rw [hk.buscarPid hsuspendido] at h
      cases h
    | none =>
      cases h
      refine Or.inr ⟨fun p hp => ?_, rfl⟩
      rw [← Bool.not_eq_true]
      rcases List.mem_append.1 hp with hp | hp
      · exact List.find?_eq_none.1 hfinds p hp
      · exact List.find?_eq_none.1 hfinds' p hp

theorem desbloquearPID_aparte (hk : k.Cerrado) (h : k.desbloquearPID pid = .ok k') :
    k.Aparte k' := by
  rcases desbloquearPID_cerrado hk h with ⟨i, p, pcb, -, hpcb, -, rfl⟩ | ⟨-, rfl⟩
  · have hmarca : k.Aparte (k.conPcb p { pcb with status := .ready }) :=
      (Aparte.refl k).conPcb hpcb rfl
    exact hmarca.trans (.of_campos rfl rfl)
  · exact .refl k'

theorem desbloquearProcesoPorSemaforo_aparte (hk : k.Cerrado)
    (h : k.desbloquearProcesoPorSemaforo nombre = .ok (o, k')) : k.Aparte k' := by
  obtain ⟨suspendido, hsuspendido, h⟩ := bind_eq_ok.1 h
  cases suspendido with
  | some i =>
    rw [hk.buscarRequerido hsuspendido] at h
    cases h
  | none =>
    obtain ⟨bloqueado, -, h⟩ := bind_eq_ok.1 h
    cases bloqueado with
    | some j =>
      obtain ⟨p, -, h⟩ := bind_eq_ok.1 h
      obtain ⟨k₁, h₁, h⟩ := bind_eq_ok.1 h
      cases h
      exact (conStatus_aparte h₁).trans (.of_campos rfl rfl)
    | none =>
      cases h
      exact .refl k

end Suspendidos

section Pasos

variable {cfg : Config} {k k' : Estado} {o : List Suceso} {m : Turno}

/-- What a step does to the requests for IO and to the suspended carpinchos. -/
inductive Rumbo (k : Estado) : Turno → Estado → Prop
  | aparte {m : Turno} {k' : Estado} (hm : ∀ c nombre, m ≠ .hilo (.recibe c (.io nombre)))
      (h : k.Aparte k') : Rumbo k m k'
  | reasignacion (c d : ℕ) (nombre : String) {k' : Estado}
      (hetapa : (k.cpusExec c).etapa = .reasignando nombre d)
      (hnombre : k.loRequieren nombre k.processBlocked = true) (h : k.Intacto k') :
      Rumbo k (.hilo (.cpu c)) k'
  | llegada (pid : ℤ) : Rumbo k (.hilo (.llegada pid)) (k.llegada pid)
  | suspension (p n : ℕ) (hlibre : k.colaSuspendedBlockedTomada = false)
      (hp : k.processBlocked[k.processBlocked.length - 1]? = some p) :
      Rumbo k (.hilo .medianoPlazo) { k with
        planifMedianoPlazo := n
        processBlocked := k.processBlocked.eraseIdx (k.processBlocked.length - 1)
        processSuspendedBlocked := k.processSuspendedBlocked ++ [p]
        colaSuspendedBlockedTomada := true }
  | pedidoIo (c : ℕ) (nombre : String) (pcb : Pcb) (hetapa : (k.cpusExec c).etapa = .recibiendo)
      (hpcb : k.pcbs (k.cpusExec c).pcbCarpincho = some pcb) :
      Rumbo k (.hilo (.recibe c (.io nombre)))
        ((({ k with uso := false }.conPcb (k.cpusExec c).pcbCarpincho
          { pcb with status := .blocked }).encolarIo pcb.pid).conEtapa c .bloqueandoPorIo)
  | comienzo (pid : ℤ) (cola : List ℤ) (n : ℕ) (hrafaga : k.rafagaIO = none)
      (hcola : k.colaIO = pid :: cola) (hn : k.ejecutarIO = n + 1) :
      Rumbo k (.hilo .planificadorIo)
        { k with ejecutarIO := n, colaIO := cola, rafagaIO := some pid }
  | fin (pid : ℤ) {k' : Estado} (hrafaga : k.rafagaIO = some pid)
      (h : { k with rafagaIO := none }.desbloquearPID pid = .ok k') :
      Rumbo k (.hilo .planificadorIo) k'

theorem pasoCpu_rumbo {c : ℕ} (hk : k.Cerrado) (h : k.pasoCpu c = .ok (o, k')) :
    Rumbo k (.hilo (.cpu c)) k' := by
  unfold pasoCpu at h
  cases hetapa : (k.cpusExec c).etapa with
  | esperando | recibiendo =>
    simp only [hetapa] at h
    cases h
  | asignada =>
    simp only [hetapa] at h
    cases h
    exact .aparte (by simp) (.of_campos rfl rfl)
  | ciclo =>
    simp only [hetapa] at h
    exact .aparte (by simp) (iniciarCiclo_aparte h)
  | respondiendoIo =>
    simp only [hetapa] at h
    exact .aparte (by simp) (responderIo_aparte h)
  | limpiandoIo =>
    simp only [hetapa] at h
    exact .aparte (by simp) (limpiarIo_aparte h)
  | bloqueandoPorIo =>
    simp only [hetapa] at h
    obtain ⟨pcb, hpcb, h⟩ := bind_eq_ok.1 h
    cases h
    have hcola : k.Aparte { k with
      processBlocked := k.processBlocked ++ [(k.cpusExec c).pcbCarpincho] } := .of_campos rfl rfl
    refine .aparte (by simp) ((hcola.conPcb (leerPcb_eq_ok.1 hpcb) ?_).conEtapa c _)
    exact rfl
  | creandoSemaforo nombre valor =>
    simp only [hetapa] at h
    cases h
    exact .aparte (by simp) (.of_campos rfl rfl)
  | restandoSemaforo d =>
    simp only [hetapa] at h
    obtain ⟨sem, -, h⟩ := bind_eq_ok.1 h
    obtain ⟨valor, -, h⟩ := bind_eq_ok.1 h
    cases h
    exact .aparte (by simp) (.of_campos rfl rfl)
  | bloqueandoPorSemaforo =>
    simp only [hetapa] at h
    cases h
    exact .aparte (by simp) (.of_campos rfl rfl)
  | desbloqueando nombre =>
    simp only [hetapa] at h
    obtain ⟨⟨sucesos, k₁⟩, h₁, h⟩ := bind_eq_ok.1 h
    cases h
    exact .aparte (by simp) ((desbloquearProcesoPorSemaforo_aparte hk h₁).responder c sucesos)
  | reasignando nombre d =>
    simp only [hetapa] at h
    obtain ⟨k₁, h₁, h⟩ := bind_eq_ok.1 h
    cases h
    obtain ⟨k₂, h₂, h₁⟩ := bind_eq_ok.1 h₁
    cases h₁
    have hlibera : k₂.Aparte { k₂ with semaforos := Function.update k₂.semaforos d none } :=
      .of_campos rfl rfl
    obtain ⟨hintacto, hnadie⟩ := reasignarProcesos_intacto h₂
    cases hnombre : k.loRequieren nombre k.processBlocked with
    | true =>
      have hresponde := hlibera.responder c []
      exact .reasignacion c d nombre hetapa hnombre (hintacto.trans hresponde.toIntacto)
    | false =>
      obtain rfl := hnadie hnombre
      exact .aparte (by simp) (hlibera.responder c [])

theorem planificadorMedianoPlazo_rumbo (h : k.planificadorMedianoPlazo = .ok k') :
    Rumbo k (.hilo .medianoPlazo) k' := by
  unfold planificadorMedianoPlazo at h
  split at h
  · cases h
  · next hlibre =>
    obtain ⟨n, -, h⟩ := bind_eq_ok.1 h
    dsimp only at h
    split at h
    · obtain ⟨p, hp, h⟩ := bind_eq_ok.1 h
      cases h
      exact .suspension p n (Bool.eq_false_iff.2 hlibre) (listGet_eq_ok.1 hp)
    · cases h
      exact .aparte (by simp) (.of_campos rfl rfl)

theorem planificadorIo_rumbo (h : k.planificadorIo = .ok k') :
    Rumbo k (.hilo .planificadorIo) k' := by
  unfold planificadorIo at h
  split at h
  · next hrafaga =>
    obtain ⟨n, hn, h⟩ := bind_eq_ok.1 h
    split at h
    · cases h
    · next pid colaIO hcola =>
      cases h
      exact .comienzo pid colaIO n hrafaga hcola (semWait_eq_ok.1 hn)
  · next pid hrafaga => exact .fin pid hrafaga h

theorem recibir_rumbo {c : ℕ} {pedido : Pedido} (hetapa : (k.cpusExec c).etapa = .recibiendo)
    (h : k.recibir c pedido = .ok (o, k')) : Rumbo k (.hilo (.recibe c pedido)) k' := by
  have huso : k.Aparte { k with uso := false } := .of_campos rfl rfl
  cases pedido with
  | memoria =>
    cases h
    exact .aparte (by simp) (huso.conEtapa c _)
  | io nombre =>
    obtain ⟨pcb, hpcb, h⟩ := bind_eq_ok.1 h
    cases h
    exact .pedidoIo c nombre pcb hetapa (leerPcb_eq_ok.1 hpcb)
  | semaforo sema => exact .aparte (by simp) (huso.trans (operacionesSemaforo_aparte h))
  | finalizacion =>
    obtain ⟨pcb, hpcb, h⟩ := bind_eq_ok.1 h
    cases h
    have hmarca : k.Aparte ({ k with uso := false }.conPcb (k.cpusExec c).pcbCarpincho
        { pcb with status := .finished }) := huso.conPcb (leerPcb_eq_ok.1 hpcb) rfl
    exact .aparte (by simp) (hmarca.trans (.of_campos rfl rfl))
  | invalido => cases h

/-- What a step does to the requests and to the suspended ones, said once. -/
theorem pasoTurno_rumbo (hk : k.Cerrado) (h : pasoTurno cfg m k = .ok (o, k')) :
    Rumbo k m k' := by
  cases m with
  | hilo e =>
    cases e with
    | llegada pid =>
      cases h
      exact .llegada pid
    | largoPlazo =>
      obtain ⟨k₁, h₁, h⟩ := bind_eq_ok.1 h
      cases h
      exact .aparte (by simp) (planificadorLargoPlazo_aparte h₁)
    | cortoPlazo elegido =>
      obtain ⟨k₁, h₁, h⟩ := bind_eq_ok.1 h
      cases h
      unfold planificadorCortoPlazo at h₁
      split at h₁
      · exact .aparte (by simp) (planificarPorSJFSinDesalojo_aparte h₁)
      · exact .aparte (by simp) (planificarPorHRRN_aparte h₁)
    | medianoPlazo =>
      obtain ⟨k₁, h₁, h⟩ := bind_eq_ok.1 h
      cases h
      exact planificadorMedianoPlazo_rumbo h₁
    | planificadorIo =>
      obtain ⟨k₁, h₁, h⟩ := bind_eq_ok.1 h
      cases h
      exact planificadorIo_rumbo h₁
    | finalizarProceso => exact .aparte (by simp) (finalizarProceso_aparte h)
    | cpu c => exact pasoCpu_rumbo hk h
    | recibe c pedido =>
      change (if _ then _ else _) = _ at h
      split at h
      · next hetapa => exact recibir_rumbo hetapa h
      · cases h
  | sinCpu =>
    obtain ⟨k₁, h₁, h⟩ := bind_eq_ok.1 h
    cases h
    exact .aparte (by simp) (perderAsignado_aparte h₁)
  | deteccion i =>
    obtain ⟨k₁, h₁, h⟩ := bind_eq_ok.1 h
    cases h
    exact .aparte (by simp) (chequearDeadlock_aparte h₁)
  | reposicion pid =>
    obtain ⟨k₁, h₁, h⟩ := bind_eq_ok.1 h
    cases h
    exact .aparte (by simp) (pasarDeBloqueadoAReady_aparte h₁)
  | terminacion pid =>
    obtain ⟨k₁, h₁, h⟩ := bind_eq_ok.1 h
    cases h
    exact .aparte (by simp) (terminarProceso_aparte h₁)

theorem Rumbo.cerrado (h : Rumbo k m k') (hk : k.Cerrado) : k'.Cerrado := by
  cases h with
  | aparte hm h => exact h.toIntacto.cerrado hk
  | reasignacion c d nombre hetapa hnombre h => exact h.cerrado hk
  | suspension p n hlibre hp => exact Or.inl rfl
  | fin pid hrafaga h =>
    exact (desbloquearPID_aparte (k := { k with rafagaIO := none }) hk h).toIntacto.cerrado hk
  | _ => exact hk

end Pasos

section Rafagas

variable {cfg : Config} {k k' : Estado} {m : Turno}

def pedidosIo (k : Estado) (m : Turno) (_ : Estado) : List ℤ :=
  match m with
  | .hilo (.recibe c (.io _)) => (k.pidDe (k.cpusExec c).pcbCarpincho).toList
  | _ => []

def rafagasIo (k : Estado) (_ : Turno) (k' : Estado) : List ℤ :=
  if k.rafagaIO = none then k'.rafagaIO.toList else []

def finesIo (k : Estado) (_ : Turno) (k' : Estado) : List ℤ :=
  if k'.rafagaIO = none then k.rafagaIO.toList else []

theorem pedidosIo_nil (hm : ∀ c nombre, m ≠ .hilo (.recibe c (.io nombre))) (k k' : Estado) :
    pedidosIo k m k' = [] := by
  unfold pedidosIo
  split
  · next c nombre => exact absurd rfl (hm c nombre)
  · rfl

theorem Rumbo.colaIO_eq (h : Rumbo k m k') (hk : k.Cerrado) :
    k.colaIO ++ pedidosIo k m k' = rafagasIo k m k' ++ k'.colaIO := by
  cases h with
  | aparte hm h =>
    rw [pedidosIo_nil hm, rafagasIo, h.rafaga, h.cola]
    cases k.rafagaIO <;> simp
  | reasignacion c d nombre hetapa hnombre h =>
    rw [pedidosIo_nil (by simp), rafagasIo, h.rafaga, h.cola]
    cases k.rafagaIO <;> simp
  | llegada pid =>
    cases hrafaga : k.rafagaIO <;> simp [pedidosIo, rafagasIo, Estado.llegada, hrafaga]
  | suspension p n hlibre hp =>
    cases hrafaga : k.rafagaIO <;> simp [pedidosIo, rafagasIo, hrafaga]
  | pedidoIo c nombre pcb hetapa hpcb =>
    cases hrafaga : k.rafagaIO <;>
      simp [pedidosIo, rafagasIo, pidDe, hpcb, encolarIo, conEtapa, conCpu, conPcb, hrafaga]
  | comienzo pid colaIO n hrafaga hcola hn => simp [pedidosIo, rafagasIo, hrafaga, hcola]
  | fin pid hrafaga h =>
    have haparte := desbloquearPID_aparte (k := { k with rafagaIO := none }) hk h
    simp [pedidosIo, rafagasIo, hrafaga, haparte.cola]

theorem Rumbo.rafagaIO_eq (h : Rumbo k m k') (hk : k.Cerrado) :
    k.rafagaIO.toList ++ rafagasIo k m k' = finesIo k m k' ++ k'.rafagaIO.toList := by
  cases h with
  | aparte hm h =>
    rw [rafagasIo, finesIo, h.rafaga]
    cases k.rafagaIO <;> simp
  | reasignacion c d nombre hetapa hnombre h =>
    rw [rafagasIo, finesIo, h.rafaga]
    cases k.rafagaIO <;> simp
  | comienzo pid colaIO n hrafaga hcola hn => simp [rafagasIo, finesIo, hrafaga]
  | fin pid hrafaga h =>
    have haparte := desbloquearPID_aparte (k := { k with rafagaIO := none }) hk h
    simp [rafagasIo, finesIo, hrafaga, haparte.rafaga]
  | _ =>
    cases hrafaga : k.rafagaIO <;>
      simp [rafagasIo, finesIo, hrafaga, Estado.llegada, encolarIo, conEtapa, conCpu, conPcb]

theorem Rumbo.ejecutarIO_eq (h : Rumbo k m k') (hk : k.Cerrado)
    (hcuenta : k.ejecutarIO = k.colaIO.length) : k'.ejecutarIO = k'.colaIO.length := by
  cases h with
  | aparte hm h => rw [h.cuenta, h.cola, hcuenta]
  | reasignacion c d nombre hetapa hnombre h => rw [h.cuenta, h.cola, hcuenta]
  | pedidoIo c nombre pcb hetapa hpcb =>
    simp [encolarIo, conEtapa, conCpu, conPcb, hcuenta]
  | comienzo pid colaIO n hrafaga hcola hn =>
    rw [hcola, List.length_cons] at hcuenta
    dsimp only
    omega
  | fin pid hrafaga h =>
    have haparte := desbloquearPID_aparte (k := { k with rafagaIO := none }) hk h
    rw [haparte.cuenta, haparte.cola, hcuenta]
  | _ => exact hcuenta

structure EnTurno (k : Estado) : Prop where
  cerrado : k.Cerrado
  cuenta : k.ejecutarIO = k.colaIO.length

theorem pasoTurno_enTurno {o : List Suceso} (hk : k.EnTurno)
    (h : pasoTurno cfg m k = .ok (o, k')) : k'.EnTurno := by
  have hrumbo := pasoTurno_rumbo hk.cerrado h
  exact ⟨hrumbo.cerrado hk.cerrado, hrumbo.ejecutarIO_eq hk.cerrado hk.cuenta⟩

theorem inicial_enTurno (cfg : Config) : (inicial cfg).EnTurno := ⟨Or.inr rfl, rfl⟩

theorem EnTurno.planificadorIo_iff (hk : k.EnTurno) (hnadie : k.rafagaIO = none) :
    (∃ k', k.planificadorIo = .ok k') ↔ k.colaIO ≠ [] := by
  unfold planificadorIo
  rw [hnadie, hk.cuenta]
  cases hpedidos : k.colaIO with
  | nil => simp [semWait]
  | cons pid cola => simp [semWait]

/-- The requests for IO are served one at a time and in the order in which they came, and none
is lost or served twice: those received are those whose burst has begun, followed by the queue,
and those begun are those ended, followed by the one that runs. The thread that serves them goes
on to a burst exactly when there is a request. -/
theorem rafagas_en_orden (cfg : Config) {ms : List Turno} {k : Estado}
    (h : Reaches (pasoTurno cfg) (fun _ _ => True) (inicial cfg) ms k) :
    history (pasoTurno cfg) pedidosIo ms (inicial cfg) =
      history (pasoTurno cfg) rafagasIo ms (inicial cfg) ++ k.colaIO ∧
    history (pasoTurno cfg) rafagasIo ms (inicial cfg) =
      history (pasoTurno cfg) finesIo ms (inicial cfg) ++ k.rafagaIO.toList ∧
    ( k.rafagaIO = none → ((∃ k', k.planificadorIo = .ok k') ↔ k.colaIO ≠ [])) := by
  have hpasos : ∀ k m o k', k.EnTurno → True → pasoTurno cfg m k = .ok (o, k') → k'.EnTurno :=
    fun _ _ _ _ hk _ hpaso => pasoTurno_enTurno hk hpaso
  have hcola := h.flow Estado.colaIO hpasos
    (fun _ _ _ _ hk _ hpaso => (pasoTurno_rumbo hk.cerrado hpaso).colaIO_eq hk.cerrado)
    (inicial_enTurno cfg)
  have hrafaga := h.flow (fun k => k.rafagaIO.toList) hpasos
    (fun _ _ _ _ hk _ hpaso => (pasoTurno_rumbo hk.cerrado hpaso).rafagaIO_eq hk.cerrado)
    (inicial_enTurno cfg)
  exact ⟨hcola, hrafaga, (h.invariant hpasos (inicial_enTurno cfg)).planificadorIo_iff⟩

/-- Two carpinchos ask for a device, the second one while the burst of the first one runs. -/
def dosPedidosIo : List Turno :=
  hilos (despachar 1 ++ [.recibe 0 (.io "disco"), .cpu 0, .cpu 0, .planificadorIo, .llegada 2,
    .largoPlazo, .largoPlazo, .largoPlazo, .cortoPlazo 0, .cortoPlazo 0, .cortoPlazo 0, .cpu 0,
    .cpu 0, .recibe 0 (.io "hilitos"), .cpu 0])

theorem rafagas_en_orden_dos :
    ∃ k, Reaches (pasoTurno configUnaCpu) (fun _ _ => True) (inicial configUnaCpu) dosPedidosIo k ∧
      k.colaIO = [2] ∧ k.rafagaIO = some 1 ∧
      history (pasoTurno configUnaCpu) pedidosIo dosPedidosIo (inicial configUnaCpu) =
        history (pasoTurno configUnaCpu) finesIo dosPedidosIo (inicial configUnaCpu) ++ [1] ++
          [2] := by
  have hcorrida : (guardedRun (pasoTurno configUnaCpu) (fun _ _ => true) dosPedidosIo
      (inicial configUnaCpu)).any (fun k => k.colaIO = [2] ∧ k.rafagaIO = some 1) = true := by
    decide +kernel
  obtain ⟨k, hk, hfin⟩ := (Option.any_eq_true _ _).1 hcorrida
  obtain ⟨hcola, hrafaga⟩ := of_decide_eq_true hfin
  have hreaches := (reaches_of_guardedRun hk).mono fun _ _ _ => trivial
  refine ⟨k, hreaches, hcola, hrafaga, ?_⟩
  obtain ⟨hpedidos, hfines, -⟩ := rafagas_en_orden configUnaCpu hreaches
  rw [hpedidos, hfines, hcola, hrafaga]
  rfl

end Rafagas

section Suspension

variable {cfg : Config} {k k' : Estado} {o : List Suceso} {m : Turno} {ms ms' : List Turno}

/-- At most one carpincho is suspended, and nobody comes out of the suspended ones. -/
structure Suspende (k : Estado) : Prop where
  libre : k.colaSuspendedBlockedTomada = false → k.processSuspendedBlocked = []
  tomada : k.colaSuspendedBlockedTomada = true → ∃ p, k.processSuspendedBlocked = [p]
  listos : k.processSuspendedReady = []

theorem Suspende.cerrado (h : k.Suspende) : k.Cerrado := by
  rw [Cerrado]
  cases htomada : k.colaSuspendedBlockedTomada with
  | false => exact Or.inr (h.libre htomada)
  | true => exact Or.inl rfl

theorem Intacto.suspende (h : k.Intacto k') (hk : k.Suspende) : k'.Suspende := by
  refine ⟨?_, ?_, h.suspendidosListos.trans hk.listos⟩
  · rw [h.tomada, h.suspendidos]
    exact hk.libre
  · rw [h.tomada, h.suspendidos]
    exact hk.tomada

theorem Rumbo.suspende (h : Rumbo k m k') (hk : k.Suspende) :
    k'.Suspende ∧ (k.colaSuspendedBlockedTomada = true →
      k'.colaSuspendedBlockedTomada = true ∧
        k'.processSuspendedBlocked = k.processSuspendedBlocked) := by
  cases h with
  | aparte hm h =>
    exact ⟨h.toIntacto.suspende hk, fun hsi => ⟨h.tomada.trans hsi, h.suspendidos⟩⟩
  | reasignacion c d nombre hetapa hnombre h =>
    exact ⟨h.suspende hk, fun hsi => ⟨h.tomada.trans hsi, h.suspendidos⟩⟩
  | suspension p n hlibre hp =>
    refine ⟨⟨?_, fun _ => ⟨p, ?_⟩, hk.listos⟩, fun hsi => ?_⟩
    · intro hno
      cases hno
    · dsimp only
      rw [hk.libre hlibre, List.nil_append]
    · rw [hlibre] at hsi
      cases hsi
  | fin pid hrafaga h =>
    have haparte := desbloquearPID_aparte (k := { k with rafagaIO := none }) hk.cerrado h
    have hsin : Suspende { k with rafagaIO := none } := ⟨hk.libre, hk.tomada, hk.listos⟩
    exact ⟨haparte.toIntacto.suspende hsin,
      fun hsi => ⟨haparte.tomada.trans hsi, haparte.suspendidos⟩⟩
  | _ => exact ⟨⟨hk.libre, hk.tomada, hk.listos⟩, fun hsi => ⟨hsi, rfl⟩⟩

theorem pasoTurno_suspende (hk : k.Suspende) (h : pasoTurno cfg m k = .ok (o, k')) :
    k'.Suspende ∧ (k.colaSuspendedBlockedTomada = true →
      k'.colaSuspendedBlockedTomada = true ∧
        k'.processSuspendedBlocked = k.processSuspendedBlocked) :=
  (pasoTurno_rumbo hk.cerrado h).suspende hk

theorem inicial_suspende (cfg : Config) : (inicial cfg).Suspende where
  libre := fun _ => rfl
  tomada := fun hno => Bool.noConfusion hno
  listos := rfl

structure Retiene (p : ℕ) (k : Estado) : Prop extends Suspende k where
  ocupada : k.colaSuspendedBlockedTomada = true
  suspendido : k.processSuspendedBlocked = [p]

theorem Suspende.exists_retiene (h : k.Suspende) (hk : k.processSuspendedBlocked ≠ []) :
    ∃ p, k.Retiene p := by
  have htomada : k.colaSuspendedBlockedTomada = true := by
    by_contra hno
    exact hk (h.libre (Bool.eq_false_iff.2 hno))
  obtain ⟨p, hp⟩ := h.tomada htomada
  exact ⟨p, h, htomada, hp⟩

theorem pasoTurno_retiene {p : ℕ} (hk : k.Retiene p) (h : pasoTurno cfg m k = .ok (o, k')) :
    k'.Retiene p := by
  obtain ⟨hsuspende, hqueda⟩ := pasoTurno_suspende hk.toSuspende h
  obtain ⟨htomada, hmismos⟩ := hqueda hk.ocupada
  exact ⟨hsuspende, htomada, hmismos.trans hk.suspendido⟩

/-- A suspension is for good. Once a carpincho is suspended it is the only one, whatever POSTs,
bursts and passes of the detector follow: it never leaves SUSPENDED_BLOCKED, nobody is ever
ready among the suspended ones, and the medium term planner does not move again. -/
theorem suspension_definitiva (cfg : Config) {ms ms' : List Turno} {k k' : Estado}
    (h : Reaches (pasoTurno cfg) (fun _ _ => True) (inicial cfg) ms k)
    (h' : Reaches (pasoTurno cfg) (fun _ _ => True) k ms' k')
    (hk : k.processSuspendedBlocked ≠ []) :
    (∃ p, k.processSuspendedBlocked = [p] ∧ k'.processSuspendedBlocked = [p]) ∧
      k'.processSuspendedReady = [] ∧
      k'.planificadorMedianoPlazo = .error .noHabilitado := by
  have hsuspende : k.Suspende :=
    h.invariant (fun _ _ _ _ hk _ hpaso => (pasoTurno_suspende hk hpaso).1)
      (inicial_suspende cfg)
  obtain ⟨p, hp⟩ := hsuspende.exists_retiene hk
  have hqueda : k'.Retiene p :=
    h'.invariant (fun _ _ _ _ hk _ hpaso => pasoTurno_retiene hk hpaso) hp
  refine ⟨⟨p, hp.suspendido, hqueda.suspendido⟩, hqueda.listos, ?_⟩
  unfold planificadorMedianoPlazo
  rw [if_pos hqueda.ocupada]

/-- The first carpincho waits for a device and is suspended. -/
def suspendido : List Turno :=
  hilos (pedirSemaforo 0 ++ [.cpu 0, .cpu 0, .recibe 0 (.io "disco"), .cpu 0, .cpu 0, .llegada 2,
    .medianoPlazo])

def trasSuspender : List Turno :=
  hilos [.planificadorIo, .largoPlazo, .largoPlazo, .largoPlazo, .cortoPlazo 0, .cortoPlazo 0,
    .cortoPlazo 0, .cpu 0, .cpu 0, .recibe 0 (.semaforo ⟨.post, "T", 0⟩), .cpu 0]

theorem suspension_definitiva_io :
    ∃ k k',
      Reaches (pasoTurno configUnaCpu) (fun _ _ => True) (inicial configUnaCpu) suspendido k ∧
      Reaches (pasoTurno configUnaCpu) (fun _ _ => True) k trasSuspender k' ∧
      k.processSuspendedBlocked = [0] ∧ k'.processSuspendedBlocked = [0] := by
  have hcorrida : (guardedRun (pasoTurno configUnaCpu) (fun _ _ => true) suspendido
      (inicial configUnaCpu)).any (fun k => k.processSuspendedBlocked = [0] ∧
        (guardedRun (pasoTurno configUnaCpu) (fun _ _ => true) trasSuspender k).isSome) = true := by
    decide +kernel
  obtain ⟨k, hk, hfin⟩ := (Option.any_eq_true _ _).1 hcorrida
  obtain ⟨hsuspendido, hsigue⟩ := of_decide_eq_true hfin
  obtain ⟨k', hk'⟩ := Option.isSome_iff_exists.1 hsigue
  have hreaches := (reaches_of_guardedRun hk).mono fun _ _ _ => trivial
  have hreaches' := (reaches_of_guardedRun hk').mono fun _ _ _ => trivial
  refine ⟨k, k', hreaches, hreaches', hsuspendido, ?_⟩
  obtain ⟨⟨p, hp, hp'⟩, -⟩ := suspension_definitiva configUnaCpu hreaches hreaches'
    (by rw [hsuspendido]; simp)
  rw [hp', ← hp, hsuspendido]

end Suspension

end Estado

end Carpinchos.Kernel
