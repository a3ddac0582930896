import Carpinchos.Kernel.Planificacion

/-!
# What one step does to the semaphores

A step of the kernel leaves the semaphores alone or makes one of six changes:
it adds a semaphore, takes a unit, gives a unit, moves a waiter, takes a semaphore out
of the list or frees it.
-/

namespace Carpinchos.Kernel

open Outcome

def Suceso.ajeno : Suceso → Bool
  | .restado _ | .sumado _ | .desbloqueado .. => false
  | _ => true

namespace Estado

structure Ajeno (k k' : Estado) : Prop where
  semaforos : k'.semaforos = k.semaforos
  lista : k'.semaforosKernel = k.semaforosKernel
  proxima : k.proxima ≤ k'.proxima
  reasignando : ∀ c n d, (k'.cpusExec c).etapa = .reasignando n d →
    (k.cpusExec c).etapa = .reasignando n d

def enEspera (k : Estado) (nombre : String) : Bool :=
  (k.processSuspendedBlocked ++ k.processBlocked).any fun p =>
    (k.pcbs p).any fun pcb => pcb.semaforoRequerido = some nombre

/-- The effect of one step on the semaphores, with the events it reports. -/
inductive Cambio (k : Estado) : Evento → List Suceso → Estado → Prop
  | ajeno {e : Evento} {o : List Suceso} {k' : Estado} (h : k.Ajeno k')
      (ho : o.all Suceso.ajeno) : Cambio k e o k'
  | creado {c : ℕ} {nombre : String} {valor : ℤ} {o : List Suceso} {k' : Estado}
      (hetapa : (k.cpusExec c).etapa = .creandoSemaforo nombre valor)
      (h : (k.agregarSemaforo nombre valor).Ajeno k') (ho : o.all Suceso.ajeno) :
      Cambio k (.cpu c) o k'
  | restado {c d : ℕ} {sem : SemKernel} {o : List Suceso} {k' : Estado}
      (hetapa : (k.cpusExec c).etapa = .restandoSemaforo d) (hsem : k.semaforos d = some sem)
      (h : (k.conSemaforo d { sem with valor := sem.valor - 1 }).Ajeno k')
      (ho : o.all Suceso.ajeno) : Cambio k (.cpu c) (.restado d :: o) k'
  | sumado {c d : ℕ} {sema : Semaforo} {sem : SemKernel} {k' : Estado}
      (hop : sema.operacion = .post) (hsem : k.semaforos d = some sem)
      (h : (k.conSemaforo d { sem with valor := sem.valor + 1 }).Ajeno k') :
      Cambio k (.recibe c (.semaforo sema)) [.sumado d] k'
  | desbloqueado {c p : ℕ} {nombre : String} {o : List Suceso} {k' : Estado}
      (hetapa : (k.cpusExec c).etapa = .desbloqueando nombre) (hespera : k.enEspera nombre)
      (h : k.Ajeno k') (ho : o.all Suceso.ajeno) :
      Cambio k (.cpu c) (.desbloqueado nombre p :: o) k'
  | quitado {c d position : ℕ} {sema : Semaforo} {sem : SemKernel} {k' : Estado}
      (hop : sema.operacion = .destroy)
      (hlista : k.semaforosKernel[position]? = some d)
      (hsem : k.semaforos d = some sem) (hnombre : sem.nombre = sema.nombreSem)
      (h : ({ k with semaforosKernel := k.semaforosKernel.eraseIdx position }.conEtapa c
        (.reasignando sema.nombreSem d)).Ajeno k') :
      Cambio k (.recibe c (.semaforo sema)) [] k'
  | liberado {c d : ℕ} {nombre : String} {o : List Suceso} {k' : Estado}
      (hetapa : (k.cpusExec c).etapa = .reasignando nombre d)
      (h : { k with semaforos := Function.update k.semaforos d none }.Ajeno k')
      (ho : o.all Suceso.ajeno) : Cambio k (.cpu c) o k'

section Ajeno

variable {k k' k'' : Estado} {c p : ℕ} {pcb : Pcb} {etapa : Etapa}

theorem Ajeno.refl (k : Estado) : k.Ajeno k := ⟨rfl, rfl, le_rfl, fun _ _ _ h => h⟩

theorem Ajeno.trans (h : k.Ajeno k') (h' : k'.Ajeno k'') : k.Ajeno k'' where
  semaforos := h'.semaforos.trans h.semaforos
  lista := h'.lista.trans h.lista
  proxima := h.proxima.trans h'.proxima
  reasignando c n d hc := h.reasignando c n d (h'.reasignando c n d hc)

theorem Ajeno.of_campos (hsemaforos : k'.semaforos = k.semaforos)
    (hlista : k'.semaforosKernel = k.semaforosKernel) (hproxima : k.proxima ≤ k'.proxima)
    (hcpus : k'.cpusExec = k.cpusExec) : k.Ajeno k' where
  semaforos := hsemaforos
  lista := hlista
  proxima := hproxima
  reasignando c n d hc := by rwa [hcpus] at hc

theorem Ajeno.conPcb (h : k.Ajeno k') (p : ℕ) (pcb : Pcb) : k.Ajeno (k'.conPcb p pcb) :=
  ⟨h.semaforos, h.lista, h.proxima, h.reasignando⟩

theorem Ajeno.conCpu {cpu : Cpu} (h : k.Ajeno k') (c : ℕ)
    (hcpu : ∀ n d, cpu.etapa ≠ .reasignando n d) : k.Ajeno (k'.conCpu c cpu) where
  semaforos := h.semaforos
  lista := h.lista
  proxima := h.proxima
  reasignando c' n d hc := by
    simp only [Estado.conCpu, Function.update_apply] at hc
    split at hc
    · exact absurd hc (hcpu n d)
    · exact h.reasignando c' n d hc

theorem Ajeno.conEtapa (h : k.Ajeno k') (c : ℕ) (hetapa : ∀ n d, etapa ≠ .reasignando n d) :
    k.Ajeno (k'.conEtapa c etapa) := h.conCpu c hetapa

theorem Ajeno.responder (h : k.Ajeno k') (c : ℕ) (o : List Suceso) :
    k.Ajeno (k'.responder c o).2 := h.conEtapa c (by simp)

theorem leerPcb_eq_ok : k.leerPcb p = .ok pcb ↔ k.pcbs p = some pcb := by
  unfold leerPcb
  cases k.pcbs p <;> simp

theorem leerSemaforo_eq_ok {d : ℕ} {sem : SemKernel} :
    k.leerSemaforo d = .ok sem ↔ k.semaforos d = some sem := by
  unfold leerSemaforo
  cases k.semaforos d <;> simp

theorem listGet_eq_ok {α : Type} {lista : List α} {i : ℕ} {a : α} :
    listGet lista i = .ok a ↔ lista[i]? = some a := by
  unfold listGet
  cases lista[i]? <;> simp

theorem conStatus_ajeno {status : Status} (h : k.conStatus p status = .ok k') : k.Ajeno k' := by
  obtain ⟨pcb, -, h⟩ := bind_eq_ok.1 h
  cases h
  exact (Ajeno.refl k).conPcb p _

end Ajeno

section Planificadores

variable {cfg : Config} {k k' : Estado} {o : List Suceso} {c p i : ℕ} {pid : ℤ}

theorem planificadorLargoPlazo_ajeno (h : k.planificadorLargoPlazo = .ok k') : k.Ajeno k' := by
  unfold planificadorLargoPlazo at h
  cases hetapa : k.largoPlazo with
  | esperandoNuevo =>
    simp only [hetapa] at h
    obtain ⟨n, -, h⟩ := bind_eq_ok.1 h
    split at h <;> cases h <;> exact .of_campos rfl rfl le_rfl rfl
  | esperandoLugar =>
    simp only [hetapa] at h
    obtain ⟨n, -, h⟩ := bind_eq_ok.1 h
    obtain ⟨⟨p, ps⟩, -, h⟩ := bind_eq_ok.1 h
    cases h
    exact .of_campos rfl rfl le_rfl rfl
  | agregado =>
    simp only [hetapa] at h
    split at h <;> cases h <;> exact .of_campos rfl rfl le_rfl rfl
  | durmiendo =>
    simp only [hetapa] at h
    cases h
    exact .of_campos rfl rfl le_rfl rfl

theorem asignarCPU_ajeno (h : k.asignarCPU cfg p = .ok k') : k.Ajeno k' := by
  obtain ⟨c, -, h⟩ := bind_eq_ok.1 h
  cases h
  exact (Ajeno.refl k).conCpu c (by simp)

theorem planificarPorSJFSinDesalojo_ajeno (h : k.planificarPorSJFSinDesalojo cfg i = .ok k') :
    k.Ajeno k' := by
  unfold planificarPorSJFSinDesalojo at h
  cases hetapa : k.cortoPlazo with
  | esperandoListo =>
    simp only [hetapa] at h
    obtain ⟨n, -, h⟩ := bind_eq_ok.1 h
    cases h
    exact .of_campos rfl rfl le_rfl rfl
  | esperandoPlanificar =>
    simp only [hetapa] at h
    obtain ⟨n, -, h⟩ := bind_eq_ok.1 h
    split at h
    · obtain ⟨⟨p, k₁⟩, h₁, h⟩ := bind_eq_ok.1 h
      obtain ⟨p', -, h₁⟩ := bind_eq_ok.1 h₁
      cases h₁
      obtain ⟨k₂, h₂, h⟩ := bind_eq_ok.1 h
      cases h
      have h₂' := conStatus_ajeno h₂
      exact ⟨h₂'.semaforos, h₂'.lista, h₂'.proxima, h₂'.reasignando⟩
    · cases h
      exact .of_campos rfl rfl le_rfl rfl
  | asignando p =>
    simp only [hetapa] at h
    obtain ⟨k₁, h₁, h⟩ := bind_eq_ok.1 h
    cases h
    exact (asignarCPU_ajeno h₁).trans (.of_campos rfl rfl le_rfl rfl)

theorem planificarPorHRRN_ajeno (h : k.planificarPorHRRN i = .ok k') : k.Ajeno k' := by
  unfold planificarPorHRRN at h
  split at h
  · obtain ⟨n, -, h⟩ := bind_eq_ok.1 h
    cases h
    exact .of_campos rfl rfl le_rfl rfl
  · obtain ⟨n, -, h⟩ := bind_eq_ok.1 h
    obtain ⟨p, -, h⟩ := bind_eq_ok.1 h
    obtain ⟨k₁, h₁, h⟩ := bind_eq_ok.1 h
    cases h
    exact (conStatus_ajeno h₁).trans (.of_campos rfl rfl le_rfl rfl)

theorem planificadorCortoPlazo_ajeno (h : k.planificadorCortoPlazo cfg i = .ok k') :
    k.Ajeno k' := by
  unfold planificadorCortoPlazo at h
  split at h
  · exact planificarPorSJFSinDesalojo_ajeno h
  · exact planificarPorHRRN_ajeno h

theorem planificadorMedianoPlazo_ajeno (h : k.planificadorMedianoPlazo = .ok k') :
    k.Ajeno k' := by
  unfold planificadorMedianoPlazo at h
  split at h
  · cases h
  · obtain ⟨n, -, h⟩ := bind_eq_ok.1 h
    dsimp only at h
    split at h
    · obtain ⟨p, -, h⟩ := bind_eq_ok.1 h
      cases h
      exact .of_campos rfl rfl le_rfl rfl
    · cases h
      exact .of_campos rfl rfl le_rfl rfl

theorem desbloquearPID_ajeno (h : k.desbloquearPID pid = .ok k') : k.Ajeno k' := by
  obtain ⟨bloqueado, -, h⟩ := bind_eq_ok.1 h
  cases bloqueado with
  | some i =>
    obtain ⟨p, -, h⟩ := bind_eq_ok.1 h
    obtain ⟨k₁, h₁, h⟩ := bind_eq_ok.1 h
    cases h
    exact (conStatus_ajeno h₁).trans (.of_campos rfl rfl le_rfl rfl)
  | none =>
    obtain ⟨suspendido, -, h⟩ := bind_eq_ok.1 h
    cases suspendido with
    | some i =>
      dsimp only at h
      split at h
      · cases h
      · obtain ⟨p, -, h⟩ := bind_eq_ok.1 h
        cases h
        exact .of_campos rfl rfl le_rfl rfl
    | none =>
      cases h
      exact .refl k

theorem planificadorIO_ajeno (h : k.planificadorIo = .ok k') : k.Ajeno k' := by
  unfold planificadorIo at h
  split at h
  · obtain ⟨n, -, h⟩ := bind_eq_ok.1 h
    split at h
    · cases h
    · cases h
      exact .of_campos rfl rfl le_rfl rfl
  · have h' := desbloquearPID_ajeno h
    exact ⟨h'.semaforos, h'.lista, h'.proxima, h'.reasignando⟩

theorem finalizarProceso_ajeno (h : k.finalizarProceso = .ok (o, k')) :
    k.Ajeno k' ∧ o.all Suceso.ajeno := by
  obtain ⟨n, -, h⟩ := bind_eq_ok.1 h
  dsimp only at h
  split at h
  · cases h
    exact ⟨.of_campos rfl rfl le_rfl rfl, rfl⟩
  · obtain ⟨pcb, -, h⟩ := bind_eq_ok.1 h
    cases h
    exact ⟨.of_campos rfl rfl le_rfl rfl, rfl⟩

theorem soltarCpu_ajeno (k : Estado) (c : ℕ) : k.Ajeno (k.soltarCpu c) := by
  refine Ajeno.conCpu ?_ c (by simp)
  exact .of_campos rfl rfl le_rfl rfl

theorem iniciarCiclo_ajeno (h : k.iniciarCiclo c = .ok (o, k')) :
    k.Ajeno k' ∧ o.all Suceso.ajeno := by
  obtain ⟨pcb, -, h⟩ := bind_eq_ok.1 h
  have huso : k.Ajeno { k with uso := true } := .of_campos rfl rfl le_rfl rfl
  split at h
  · split at h
    · cases h
      exact ⟨(Ajeno.refl k).conEtapa c (by simp), rfl⟩
    · cases h
      exact ⟨huso.conEtapa c (by simp), rfl⟩
  · cases h
    exact ⟨soltarCpu_ajeno k c, rfl⟩

theorem responderIo_ajeno (h : k.responderIo c = .ok (o, k')) :
    k.Ajeno k' ∧ o.all Suceso.ajeno := by
  obtain ⟨pcb, -, h⟩ := bind_eq_ok.1 h
  cases h
  exact ⟨(Ajeno.refl k).conEtapa c (by simp), rfl⟩

theorem limpiarIo_ajeno (h : k.limpiarIo c = .ok (o, k')) :
    k.Ajeno k' ∧ o.all Suceso.ajeno := by
  obtain ⟨pcb, -, h⟩ := bind_eq_ok.1 h
  cases h
  have huso : k.Ajeno { k with uso := true } := .of_campos rfl rfl le_rfl rfl
  exact ⟨(huso.conPcb _ _).conEtapa c (by simp), rfl⟩

end Planificadores

section Semaforos

variable {cfg : Config} {k k' : Estado} {o : List Suceso} {c d : ℕ} {nombre : String}
  {sema : Semaforo}

theorem buscarSem_some {ds : List ℕ} {i position : ℕ}
    (h : k.buscarSem nombre ds i = .ok (some position)) :
    ∃ j d sem, position = i + j ∧ ds[j]? = some d ∧ k.semaforos d = some sem ∧
      sem.nombre = nombre := by
  induction ds generalizing i with
  | nil => cases h
  | cons d ds ih =>
    obtain ⟨sem, hsem, h⟩ := bind_eq_ok.1 h
    split at h
    · next heq =>
      cases h
      exact ⟨0, d, sem, rfl, rfl, leerSemaforo_eq_ok.1 hsem, heq⟩
    · obtain ⟨j, d, sem, hj, hd, hsem, hnombre⟩ := ih h
      exact ⟨j + 1, d, sem, by omega, hd, hsem, hnombre⟩

theorem verificarExisteSem_some {position : ℕ}
    (h : k.verificarExisteSem nombre = .ok (some position)) :
    ∃ d sem, k.semaforosKernel[position]? = some d ∧ k.semaforos d = some sem ∧
      sem.nombre = nombre := by
  obtain ⟨j, d, sem, hj, hd, hsem, hnombre⟩ := buscarSem_some h
  obtain rfl : position = j := by omega
  exact ⟨d, sem, hd, hsem, hnombre⟩

theorem semaforoEn_eq_ok {position : ℕ} :
    k.semaforoEn position = .ok d ↔ k.semaforosKernel[position]? = some d := by
  rw [semaforoEn, listGet_eq_ok]

theorem entero_eq_ok {x y : ℤ} (h : entero x = .ok y) : y = x := by
  unfold entero at h
  split at h <;> cases h
  rfl

theorem crearSemaforoKernel_ajeno {valor : ℤ}
    (h : k.crearSemaforoKernel c nombre valor = .ok (o, k')) :
    k.Ajeno k' ∧ o.all Suceso.ajeno := by
  obtain ⟨existe, -, h⟩ := bind_eq_ok.1 h
  cases existe with
  | none =>
    cases h
    exact ⟨(Ajeno.refl k).conEtapa c (by simp), rfl⟩
  | some position =>
    cases h
    exact ⟨(Ajeno.refl k).responder c [], rfl⟩

theorem restarSem_ajeno (h : k.restarSem c nombre = .ok (o, k')) :
    k.Ajeno k' ∧ o.all Suceso.ajeno := by
  obtain ⟨existe, -, h⟩ := bind_eq_ok.1 h
  cases existe with
  | none =>
    cases h
    exact ⟨(Ajeno.refl k).responder c [], rfl⟩
  | some position =>
    obtain ⟨d, -, h⟩ := bind_eq_ok.1 h
    obtain ⟨sem, -, h⟩ := bind_eq_ok.1 h
    split at h
    · cases h
      exact ⟨(Ajeno.refl k).conEtapa c (by simp), rfl⟩
    · obtain ⟨k₁, h₁, h⟩ := bind_eq_ok.1 h
      cases h
      exact ⟨(conStatus_ajeno h₁).conEtapa c (by simp), rfl⟩

theorem sumarSem_cambio (h : k.sumarSem c nombre = .ok (o, k')) :
    k.Ajeno k' ∧ o = [] ∨
      ∃ d sem, k.semaforos d = some sem ∧ o = [.sumado d] ∧
        (k.conSemaforo d { sem with valor := sem.valor + 1 }).Ajeno k' := by
  obtain ⟨existe, -, h⟩ := bind_eq_ok.1 h
  cases existe with
  | none =>
    cases h
    exact Or.inl ⟨(Ajeno.refl k).conEtapa c (by simp), rfl⟩
  | some position =>
    obtain ⟨d, -, h⟩ := bind_eq_ok.1 h
    obtain ⟨sem, hsem, h⟩ := bind_eq_ok.1 h
    obtain ⟨valor, hvalor, h⟩ := bind_eq_ok.1 h
    cases h
    rw [entero_eq_ok hvalor]
    exact Or.inr ⟨d, sem, leerSemaforo_eq_ok.1 hsem, rfl,
      (Ajeno.refl _).conEtapa c (by simp)⟩

theorem eliminarSemaforoKernel_cambio (h : k.eliminarSemaforoKernel c nombre = .ok (o, k')) :
    k.Ajeno k' ∧ o.all Suceso.ajeno ∨
      ∃ position d sem, k.semaforosKernel[position]? = some d ∧
        k.semaforos d = some sem ∧ sem.nombre = nombre ∧ o = [] ∧
        k' = { k with semaforosKernel := k.semaforosKernel.eraseIdx position }.conEtapa c
          (.reasignando nombre d) := by
  obtain ⟨existe, hexiste, h⟩ := bind_eq_ok.1 h
  cases existe with
  | none =>
    cases h
    exact Or.inl ⟨(Ajeno.refl k).responder c [], rfl⟩
  | some position =>
    obtain ⟨d, hd, h⟩ := bind_eq_ok.1 h
    cases h
    obtain ⟨d', sem, hlista, hsem, hnombre⟩ := verificarExisteSem_some hexiste
    obtain rfl : d' = d := by
      rw [semaforoEn_eq_ok, hlista] at hd
      cases hd
      rfl
    exact Or.inr ⟨position, d', sem, hlista, hsem, hnombre, rfl, rfl⟩

theorem buscarRequerido_some {ps : List ℕ} {i j : ℕ}
    (h : k.buscarRequerido nombre ps i = .ok (some j)) :
    ∃ p ∈ ps, ∃ pcb, k.pcbs p = some pcb ∧ pcb.semaforoRequerido = some nombre := by
  induction ps generalizing i with
  | nil => cases h
  | cons p ps ih =>
    obtain ⟨pcb, hpcb, h⟩ := bind_eq_ok.1 h
    cases hreq : pcb.semaforoRequerido with
    | none =>
      rw [hreq] at h
      cases h
    | some requerido =>
      rw [hreq] at h
      dsimp only at h
      split at h
      · next heq =>
        exact ⟨p, by simp, pcb, leerPcb_eq_ok.1 hpcb, by rw [hreq, heq]⟩
      · obtain ⟨p', hp', hespera⟩ := ih h
        exact ⟨p', by simp [hp'], hespera⟩

theorem enEspera_iff :
    k.enEspera nombre = true ↔ ∃ p ∈ k.processSuspendedBlocked ++ k.processBlocked,
      ∃ pcb, k.pcbs p = some pcb ∧ pcb.semaforoRequerido = some nombre := by
  rw [enEspera, List.any_eq_true]
  simp only [Option.any_eq_true, decide_eq_true_eq]

theorem desbloquearProcesoPorSemaforo_cambio
    (h : k.desbloquearProcesoPorSemaforo nombre = .ok (o, k')) :
    k.Ajeno k' ∧ (o = [] ∨ ∃ p, o = [.desbloqueado nombre p] ∧ k.enEspera nombre) := by
  obtain ⟨suspendido, hsuspendido, h⟩ := bind_eq_ok.1 h
  cases suspendido with
  | some i =>
    obtain ⟨q, hq, pcb, hpcb⟩ := buscarRequerido_some hsuspendido
    have hespera : k.enEspera nombre :=
      enEspera_iff.2 ⟨q, List.mem_append_left _ hq, pcb, hpcb⟩
    dsimp only at h
    split at h
    · cases h
    · obtain ⟨p, -, h⟩ := bind_eq_ok.1 h
      cases h
      exact ⟨.of_campos rfl rfl le_rfl rfl, Or.inr ⟨p, rfl, hespera⟩⟩
  | none =>
    obtain ⟨bloqueado, hbloqueado, h⟩ := bind_eq_ok.1 h
    cases bloqueado with
    | some j =>
      obtain ⟨q, hq, pcb, hpcb⟩ := buscarRequerido_some hbloqueado
      have hespera : k.enEspera nombre :=
        enEspera_iff.2 ⟨q, List.mem_append_right _ hq, pcb, hpcb⟩
      obtain ⟨p, -, h⟩ := bind_eq_ok.1 h
      obtain ⟨k₁, h₁, h⟩ := bind_eq_ok.1 h
      cases h
      exact ⟨(conStatus_ajeno h₁).trans (.of_campos rfl rfl le_rfl rfl),
        Or.inr ⟨p, rfl, hespera⟩⟩
    | none =>
      cases h
      exact ⟨.refl k, Or.inl rfl⟩

theorem reasignarProcesos_ajeno {ps : List ℕ} (h : reasignarProcesos nombre k ps = .ok k') :
    k.Ajeno k' := by
  induction ps generalizing k with
  | nil =>
    cases h
    exact .refl _
  | cons p ps ih =>
    obtain ⟨pcb, -, h⟩ := bind_eq_ok.1 h
    cases hreq : pcb.semaforoRequerido with
    | none =>
      rw [hreq] at h
      cases h
    | some requerido =>
      rw [hreq] at h
      dsimp only at h
      split at h
      · exact ((Ajeno.refl k).conPcb p _).trans (ih h)
      · exact ih h

theorem liberarSemaforo_ajeno (h : k.liberarSemaforo nombre d = .ok k') :
    Ajeno { k with semaforos := Function.update k.semaforos d none } k' := by
  obtain ⟨k₁, h₁, h⟩ := bind_eq_ok.1 h
  cases h
  have hajeno := reasignarProcesos_ajeno h₁
  refine ⟨?_, hajeno.lista, hajeno.proxima, hajeno.reasignando⟩
  rw [← hajeno.semaforos]

theorem operacionesSemaforo_cambio (h : k.operacionesSemaforo c sema = .ok (o, k')) :
    k.Cambio (.recibe c (.semaforo sema)) o k' := by
  obtain ⟨pcb, -, h⟩ := bind_eq_ok.1 h
  dsimp only at h
  have hpcb := (Ajeno.refl k).conPcb (k.cpusExec c).pcbCarpincho
    { pcb with semaforoRequerido := some sema.nombreSem }
  cases hop : sema.operacion with
  | init =>
    rw [hop] at h
    obtain ⟨hajeno, ho⟩ := crearSemaforoKernel_ajeno h
    exact .ajeno (hpcb.trans hajeno) ho
  | wait =>
    rw [hop] at h
    obtain ⟨hajeno, ho⟩ := restarSem_ajeno h
    exact .ajeno (hpcb.trans hajeno) ho
  | post =>
    rw [hop] at h
    rcases sumarSem_cambio h with ⟨hajeno, rfl⟩ | ⟨d, sem, hsem, rfl, hajeno⟩
    · exact .ajeno (hpcb.trans hajeno) rfl
    · exact .sumado hop hsem
        ⟨hajeno.semaforos, hajeno.lista, hajeno.proxima, hajeno.reasignando⟩
  | destroy =>
    rw [hop] at h
    rcases eliminarSemaforoKernel_cambio h with
      ⟨hajeno, ho⟩ | ⟨position, d, sem, hlista, hsem, hnombre, rfl, rfl⟩
    · exact .ajeno (hpcb.trans hajeno) ho
    · exact .quitado hop hlista hsem hnombre ⟨rfl, rfl, le_rfl, fun _ _ _ h => h⟩
  | invalida =>
    rw [hop] at h
    cases h
    exact .ajeno (hpcb.responder c []) rfl

end Semaforos

section Paso

variable {cfg : Config} {k k' : Estado} {e : Evento} {o : List Suceso} {c : ℕ} {pedido : Pedido}

theorem recibir_cambio (h : k.recibir c pedido = .ok (o, k')) :
    k.Cambio (.recibe c pedido) o k' := by
  have huso : k.Ajeno { k with uso := false } := .of_campos rfl rfl le_rfl rfl
  cases pedido with
  | memoria =>
    cases h
    exact .ajeno (huso.conEtapa c (by simp)) rfl
  | io nombre =>
    obtain ⟨pcb, -, h⟩ := bind_eq_ok.1 h
    cases h
    refine .ajeno (Ajeno.conEtapa ?_ c (by simp)) rfl
    exact .of_campos rfl rfl le_rfl rfl
  | semaforo sema =>
    have hcambio := operacionesSemaforo_cambio h
    cases hcambio with
    | ajeno h ho => exact .ajeno (huso.trans h) ho
    | sumado hop hsem h => exact .sumado hop hsem ⟨h.semaforos, h.lista, h.proxima, h.reasignando⟩
    | quitado hop hlista hsem hnombre h =>
      exact .quitado hop hlista hsem hnombre ⟨h.semaforos, h.lista, h.proxima, h.reasignando⟩
  | finalizacion =>
    obtain ⟨pcb, -, h⟩ := bind_eq_ok.1 h
    cases h
    refine .ajeno (Ajeno.conEtapa ?_ c (by simp)) rfl
    exact .of_campos rfl rfl le_rfl rfl
  | invalido => cases h

theorem pasoCpu_cambio (h : k.pasoCpu c = .ok (o, k')) : k.Cambio (.cpu c) o k' := by
  unfold pasoCpu at h
  cases hetapa : (k.cpusExec c).etapa with
  | esperando => rw [hetapa] at h; cases h
  | recibiendo => rw [hetapa] at h; cases h
  | asignada =>
    rw [hetapa] at h
    cases h
    refine .ajeno (Ajeno.conEtapa ?_ c (by simp)) rfl
    exact .of_campos rfl rfl le_rfl rfl
  | ciclo =>
    rw [hetapa] at h
    obtain ⟨hajeno, ho⟩ := iniciarCiclo_ajeno h
    exact .ajeno hajeno ho
  | respondiendoIo =>
    rw [hetapa] at h
    obtain ⟨hajeno, ho⟩ := responderIo_ajeno h
    exact .ajeno hajeno ho
  | limpiandoIo =>
    rw [hetapa] at h
    obtain ⟨hajeno, ho⟩ := limpiarIo_ajeno h
    exact .ajeno hajeno ho
  | bloqueandoPorIo =>
    rw [hetapa] at h
    obtain ⟨pcb, -, h⟩ := bind_eq_ok.1 h
    cases h
    refine .ajeno (Ajeno.conEtapa ?_ c (by simp)) rfl
    exact .of_campos rfl rfl le_rfl rfl
  | creandoSemaforo nombre valor =>
    rw [hetapa] at h
    cases h
    exact .creado hetapa ((Ajeno.refl _).responder c []) rfl
  | restandoSemaforo d =>
    rw [hetapa] at h
    obtain ⟨sem, hsem, h⟩ := bind_eq_ok.1 h
    obtain ⟨valor, hvalor, h⟩ := bind_eq_ok.1 h
    cases h
    rw [entero_eq_ok hvalor]
    exact .restado hetapa (leerSemaforo_eq_ok.1 hsem) ((Ajeno.refl _).responder c []) rfl
  | bloqueandoPorSemaforo =>
    rw [hetapa] at h
    cases h
    refine .ajeno (Ajeno.conEtapa ?_ c (by simp)) rfl
    exact .of_campos rfl rfl le_rfl rfl
  | desbloqueando nombre =>
    rw [hetapa] at h
    obtain ⟨⟨o₁, k₁⟩, h₁, h⟩ := bind_eq_ok.1 h
    cases h
    obtain ⟨hajeno, ho⟩ := desbloquearProcesoPorSemaforo_cambio h₁
    rcases ho with rfl | ⟨p, rfl, hespera⟩
    · exact .ajeno (hajeno.responder c []) rfl
    · exact .desbloqueado hetapa hespera (hajeno.responder c []) rfl
  | reasignando nombre d =>
    rw [hetapa] at h
    obtain ⟨k₁, h₁, h⟩ := bind_eq_ok.1 h
    cases h
    exact .liberado hetapa ((liberarSemaforo_ajeno h₁).responder c []) rfl

/-- Every step is one of the changes. -/
theorem paso_cambio (h : paso cfg e k = .ok (o, k')) : k.Cambio e o k' := by
  cases e with
  | llegada pid =>
    cases h
    exact .ajeno (.of_campos rfl rfl (Nat.le_succ _) rfl) rfl
  | largoPlazo =>
    obtain ⟨k₁, h₁, h⟩ := bind_eq_ok.1 h
    cases h
    exact .ajeno (planificadorLargoPlazo_ajeno h₁) rfl
  | cortoPlazo elegido =>
    obtain ⟨k₁, h₁, h⟩ := bind_eq_ok.1 h
    cases h
    exact .ajeno (planificadorCortoPlazo_ajeno h₁) rfl
  | medianoPlazo =>
    obtain ⟨k₁, h₁, h⟩ := bind_eq_ok.1 h
    cases h
    exact .ajeno (planificadorMedianoPlazo_ajeno h₁) rfl
  | planificadorIo =>
    obtain ⟨k₁, h₁, h⟩ := bind_eq_ok.1 h
    cases h
    exact .ajeno (planificadorIO_ajeno h₁) rfl
  | finalizarProceso =>
    obtain ⟨hajeno, ho⟩ := finalizarProceso_ajeno h
    exact .ajeno hajeno ho
  | cpu c => exact pasoCpu_cambio h
  | recibe c pedido =>
    rw [paso] at h
    split at h
    · exact recibir_cambio h
    · cases h

end Paso

end Estado

end Carpinchos.Kernel
