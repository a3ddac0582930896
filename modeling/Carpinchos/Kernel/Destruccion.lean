import Carpinchos.Kernel.Pendientes
import Carpinchos.Kernel.SemaforoSeguro

/-!
# Destroying a semaphore

A semaphore that is destroyed should leave nobody waiting for it. `reasignarProcesos` goes
through the blocked carpinchos, but only takes the PID away from those that name the
semaphore: they stay where they are, and nothing can name them any more. A carpincho that
waits for a device still names the semaphore of its last operation. So a semaphore is
destroyed as it should be exactly when there is nothing to do.
-/

namespace Carpinchos.Kernel

open Outcome Runs

namespace Estado

section Definiciones

/-- `eliminarSemaforoKernel`, with nobody in between. -/
def destruir (k : Estado) (c : ℕ) (nombre : String) : Except Falla Estado := do
  let (_, k) ← k.eliminarSemaforoKernel c nombre
  match (k.cpusExec c).etapa with
  | .reasignando nombre d => k.liberarSemaforo nombre d
  | _ => .ok k

/-- The semaphore has been taken out of the list, and its cleanup is still to come. -/
def quitar (k : Estado) (c : ℕ) (nombre : String) (position d : ℕ) : Estado :=
  { k with semaforosKernel := k.semaforosKernel.eraseIdx position }.conEtapa c
    (.reasignando nombre d)

/-- The control block waits for this semaphore: it names it, and waits for no device. -/
def esperaA (k : Estado) (nombre : String) (p : ℕ) : Bool :=
  (k.pcbs p).any fun pcb => decide (pcb.semaforoRequerido = some nombre) && !pcb.ioFinished

/-- The semaphore at this position is gone, nobody waits for it any more, and everything else
is as it was. -/
structure Destruye (k : Estado) (nombre : String) (position : ℕ) (k' : Estado) : Prop where
  nadieEspera : ∀ p ∈ k'.bloqueados, k'.esperaA nombre p = false
  bloqueados : k'.processBlocked.filter (fun p => !k.esperaA nombre p) =
    k.processBlocked.filter fun p => !k.esperaA nombre p
  suspendidos : k'.processSuspendedBlocked.filter (fun p => !k.esperaA nombre p) =
    k.processSuspendedBlocked.filter fun p => !k.esperaA nombre p
  pcbs : ∀ p ∈ k.bloqueados, k.esperaA nombre p = false → k'.pcbs p = k.pcbs p
  lista : k'.semaforosKernel = k.semaforosKernel.eraseIdx position
  semaforos : ∀ d, k.semaforosKernel[position]? ≠ some d → k'.semaforos d = k.semaforos d
  pids : ∀ p, (k'.pcbs p).map Pcb.pid = (k.pcbs p).map Pcb.pid

/-- There is nothing to do for the destruction: nobody waits for the semaphore, and whoever of
BLOCKED names it all the same has lost its PID before. -/
structure NadaQueHacer (k : Estado) (nombre : String) : Prop where
  nombran : ∀ p ∈ k.processBlocked, k.requerido p ≠ none
  nadieEspera : ∀ p ∈ k.bloqueados, k.esperaA nombre p = false
  sinPid : ∀ p ∈ k.processBlocked, k.requerido p = some nombre →
    (k.pcbs p).map Pcb.pid = some (-1)

end Definiciones

section Reasignar

variable {k k' : Estado} {nombre : String} {ps : List ℕ} {c p q : ℕ}

theorem requerido_eq_some :
    k.requerido p = some nombre ↔
      ∃ pcb, k.pcbs p = some pcb ∧ pcb.semaforoRequerido = some nombre :=
  Option.bind_eq_some_iff

theorem pcbs_conPcb_self (pcb : Pcb) : (k.conPcb p pcb).pcbs p = some pcb :=
  Function.update_self ..

theorem pcbs_conPcb_of_ne {pcb : Pcb} (h : q ≠ p) : (k.conPcb p pcb).pcbs q = k.pcbs q :=
  Function.update_of_ne h ..

def SalvoPid (pcb pcb' : Option Pcb) : Prop :=
  pcb'.map (fun b => { b with pid := 0 }) = pcb.map fun b => { b with pid := 0 }

theorem SalvoPid.requerido (h : SalvoPid (k.pcbs p) (k'.pcbs p)) :
    k'.requerido p = k.requerido p := by
  have hmap := congrArg (Option.bind · Pcb.semaforoRequerido) h
  simp only [Option.bind_map, Function.comp_def] at hmap
  exact hmap

theorem SalvoPid.esperaA (h : SalvoPid (k.pcbs p) (k'.pcbs p)) :
    k'.esperaA nombre p = k.esperaA nombre p := by
  have hmap := congrArg (Option.any fun pcb : Pcb =>
    decide (pcb.semaforoRequerido = some nombre) && !pcb.ioFinished) h
  simp only [Option.any_map] at hmap
  exact hmap

theorem reasignarProcesos_cambia (h : reasignarProcesos nombre k ps = .ok k') :
    (∀ p ∈ ps, k.requerido p ≠ none) ∧ (∀ q, SalvoPid (k.pcbs q) (k'.pcbs q)) ∧
      (∀ q, q ∈ ps ∧ k.requerido q = some nombre →
        (k'.pcbs q).map Pcb.pid = some (-1)) ∧
      (∀ q, ¬ (q ∈ ps ∧ k.requerido q = some nombre) → k'.pcbs q = k.pcbs q) ∧
      k'.processBlocked = k.processBlocked ∧
      k'.processSuspendedBlocked = k.processSuspendedBlocked := by
  induction ps generalizing k with
  | nil =>
    cases h
    exact ⟨fun p hp => absurd hp List.not_mem_nil, fun _ => rfl,
      fun q hq => absurd hq.1 List.not_mem_nil, fun _ _ => rfl, rfl, rfl⟩
  | cons p ps ih =>
    obtain ⟨⟨pid, requerido, ioFinished, status⟩, hpcb, h⟩ := bind_eq_ok.1 h
    rw [leerPcb_eq_ok] at hpcb
    have hp : k.requerido p = requerido := by rw [Estado.requerido, hpcb, Option.bind_some]
    cases requerido with
    | none => cases h
    | some requerido =>
      have hcabeza : k.requerido p ≠ none := by
        rw [hp]
        exact Option.some_ne_none _
      dsimp only at h
      split at h
      · next hnombre =>
        subst hnombre
        obtain ⟨hresto, hsalvo, hpierde, hquieto, hcolas⟩ := ih h
        have hsalvo₁ (q : ℕ) : SalvoPid (k.pcbs q)
            ((k.conPcb p ⟨-1, some requerido, ioFinished, status⟩).pcbs q) := by
          by_cases hq : q = p
          · rw [hq, pcbs_conPcb_self, hpcb]
            rfl
          · rw [pcbs_conPcb_of_ne hq]
            rfl
        have hnombra (q : ℕ) :
            (k.conPcb p ⟨-1, some requerido, ioFinished, status⟩).requerido q = k.requerido q :=
          (hsalvo₁ q).requerido
        simp only [hnombra] at hresto hpierde hquieto
        refine ⟨List.forall_mem_cons.2 ⟨hcabeza, hresto⟩,
          fun q => (hsalvo q).trans (hsalvo₁ q), fun q hq => ?_, fun q hq => ?_, hcolas⟩
        · by_cases hqs : q ∈ ps
          · exact hpierde q ⟨hqs, hq.2⟩
          · obtain rfl : q = p := (List.mem_cons.1 hq.1).resolve_right hqs
            rw [hquieto q fun h => hqs h.1, pcbs_conPcb_self]
            rfl
        · have hne : q ≠ p := by
            rintro rfl
            exact hq ⟨List.mem_cons_self, hp⟩
          rw [hquieto q fun h => hq ⟨List.mem_cons_of_mem _ h.1, h.2⟩, pcbs_conPcb_of_ne hne]
      · next hnombre =>
        have hno : k.requerido p ≠ some nombre := by
          rw [hp]
          exact fun h => hnombre (Option.some.inj h)
        obtain ⟨hresto, hsalvo, hpierde, hquieto, hcolas⟩ := ih h
        refine ⟨List.forall_mem_cons.2 ⟨hcabeza, hresto⟩, hsalvo, fun q hq => ?_,
          fun q hq => hquieto q fun h => hq ⟨List.mem_cons_of_mem _ h.1, h.2⟩, hcolas⟩
        refine hpierde q ⟨(List.mem_cons.1 hq.1).resolve_left ?_, hq.2⟩
        rintro rfl
        exact hno hq.2

/-- Where every control block that names the semaphore has lost its PID there is nothing to
do. -/
theorem reasignarProcesos_nada (hrequerido : ∀ p ∈ ps, k.requerido p ≠ none)
    (hsinPid : ∀ p ∈ ps, k.requerido p = some nombre → (k.pcbs p).map Pcb.pid = some (-1)) :
    reasignarProcesos nombre k ps = .ok k := by
  induction ps with
  | nil => rfl
  | cons p ps ih =>
    rw [List.forall_mem_cons] at hrequerido hsinPid
    obtain ⟨requerido, hr⟩ := Option.ne_none_iff_exists'.1 hrequerido.1
    obtain ⟨⟨pid, _, ioFinished, status⟩, hpcb, rfl⟩ := requerido_eq_some.1 hr
    have hresto := ih hrequerido.2 hsinPid.2
    rw [reasignarProcesos, leerPcb_eq_ok.2 hpcb, ok_bind]
    dsimp only
    split
    · next hnombre =>
      have hpid := hsinPid.1 (hnombre ▸ hr)
      rw [hpcb] at hpid
      obtain rfl : pid = -1 := Option.some.inj hpid
      rw [conPcb, Function.update_eq_self_iff.2 hpcb.symm]
      exact hresto
    · exact hresto

end Reasignar

section Destruir

variable {k k' : Estado} {nombre : String} {c position d : ℕ}

theorem destruir_eq (hexiste : k.verificarExisteSem nombre = .ok (some position))
    (hd : k.semaforosKernel[position]? = some d) :
    k.destruir c nombre = (k.quitar c nombre position d).liberarSemaforo nombre d := by
  have hposition : k.semaforoEn position = .ok d := semaforoEn_eq_ok.2 hd
  have hetapa : ((k.quitar c nombre position d).cpusExec c).etapa = .reasignando nombre d := by
    simp [quitar, conEtapa, conCpu]
  rw [destruir, eliminarSemaforoKernel, hexiste]
  simp only [ok_bind, hposition]
  rw [← quitar, hetapa]

theorem NadaQueHacer.liberarSemaforo (h : k.NadaQueHacer nombre) (d : ℕ) :
    k.liberarSemaforo nombre d =
      .ok { k with semaforos := Function.update k.semaforos d none } := by
  rw [Estado.liberarSemaforo, reasignarProcesos_nada h.nombran h.sinPid, ok_bind]

theorem posicion_ocupada (hexiste : k.verificarExisteSem nombre = .ok (some position)) :
    ∃ d, k.semaforosKernel[position]? = some d := by
  obtain ⟨d, -, hd, -, -⟩ := verificarExisteSem_some hexiste
  exact ⟨d, hd⟩

/-- A semaphore is destroyed as it should be exactly when there is nothing to do. -/
theorem destruye_iff (c : ℕ) (hexiste : k.verificarExisteSem nombre = .ok (some position)) :
    (∃ k', k.destruir c nombre = .ok k' ∧ Destruye k nombre position k') ↔
      k.NadaQueHacer nombre := by
  obtain ⟨d, hd⟩ := posicion_ocupada hexiste
  rw [destruir_eq hexiste hd]
  constructor
  · rintro ⟨k', h, hdestruye⟩
    obtain ⟨k₁, h₁, h⟩ := bind_eq_ok.1 h
    cases h
    obtain ⟨hnombran, hsalvo, hpierde, -, hbloqueados, hsuspendidos⟩ :=
      reasignarProcesos_cambia h₁
    refine ⟨hnombran, fun p hp => ?_, fun p hp hnombra => ?_⟩
    · have hp' : p ∈ k₁.bloqueados := by
        rw [bloqueados, hbloqueados, hsuspendidos]
        exact hp
      exact (hsalvo p).esperaA.symm.trans (hdestruye.nadieEspera p hp')
    · exact (hdestruye.pids p).symm.trans (hpierde p ⟨hp, hnombra⟩)
  · intro h
    have hquitar : (k.quitar c nombre position d).NadaQueHacer nombre :=
      ⟨h.nombran, h.nadieEspera, h.sinPid⟩
    refine ⟨_, hquitar.liberarSemaforo d, h.nadieEspera, rfl, rfl, fun _ _ _ => rfl, rfl,
      fun d' hd' => ?_, fun _ => rfl⟩
    refine Function.update_of_ne ?_ _ _
    rintro rfl
    exact hd' hd

theorem buscarSem_congr (hsemaforos : k'.semaforos = k.semaforos) (ds : List ℕ) (i : ℕ) :
    k'.buscarSem nombre ds i = k.buscarSem nombre ds i := by
  induction ds generalizing i with
  | nil => rfl
  | cons d ds ih => simp only [buscarSem, leerSemaforo, hsemaforos, ih]

def anotar (k : Estado) (c : ℕ) (nombre : String) (pcb : Pcb) : Estado :=
  { k with uso := false }.conPcb (k.cpusExec c).pcbCarpincho
    { pcb with semaforoRequerido := some nombre }

/-- A DESTROY that nobody gets in between of is served by two steps of its CPU. -/
theorem run_destruir (cfg : Config) {sema : Semaforo} {pcb : Pcb}
    (hetapa : (k.cpusExec c).etapa = .recibiendo) (hop : sema.operacion = .destroy)
    (hpcb : k.pcbs (k.cpusExec c).pcbCarpincho = some pcb)
    (hexiste : k.verificarExisteSem sema.nombreSem = .ok (some position)) :
    (run (paso cfg) [.recibe c (.semaforo sema), .cpu c] k).map Prod.snd =
      ((k.anotar c sema.nombreSem pcb).destruir c sema.nombreSem).map
        fun k' : Estado => (k'.responder c []).2 := by
  obtain ⟨d, hd⟩ := posicion_ocupada hexiste
  have hexiste' : (k.anotar c sema.nombreSem pcb).verificarExisteSem sema.nombreSem =
      .ok (some position) := by
    rw [verificarExisteSem, buscarSem_congr (show (k.anotar c sema.nombreSem pcb).semaforos =
      k.semaforos from rfl)]
    exact hexiste
  have hrecibe : paso cfg (.recibe c (.semaforo sema)) k =
      .ok ([], (k.anotar c sema.nombreSem pcb).quitar c sema.nombreSem position d) := by
    have hposition : (k.anotar c sema.nombreSem pcb).semaforoEn position = .ok d :=
      semaforoEn_eq_ok.2 hd
    have helimina : (k.anotar c sema.nombreSem pcb).eliminarSemaforoKernel c sema.nombreSem =
        .ok ([], (k.anotar c sema.nombreSem pcb).quitar c sema.nombreSem position d) := by
      rw [eliminarSemaforoKernel, hexiste']
      simp only [ok_bind, hposition, quitar]
    have hleer : { k with uso := false }.leerPcb (k.cpusExec c).pcbCarpincho = .ok pcb :=
      leerPcb_eq_ok.2 hpcb
    rw [paso, if_pos hetapa, recibir]
    simp only [operacionesSemaforo, hop, hleer, ok_bind]
    exact helimina
  have hcpu (k₁ : Estado) : paso cfg (.cpu c) (k₁.quitar c sema.nombreSem position d) =
      ((k₁.quitar c sema.nombreSem position d).liberarSemaforo sema.nombreSem d).map
        fun k' : Estado => k'.responder c [] := by
    have hetapa' : ((k₁.quitar c sema.nombreSem position d).cpusExec c).etapa =
        .reasignando sema.nombreSem d := by
      simp [quitar, conEtapa, conCpu]
    rw [paso, pasoCpu, hetapa']
    dsimp only
    cases (k₁.quitar c sema.nombreSem position d).liberarSemaforo sema.nombreSem d with
    | error e => rfl
    | ok k' => rfl
  rw [run, hrecibe, ok_bind, destruir_eq hexiste' hd, run, hcpu]
  cases liberarSemaforo _ sema.nombreSem d with
  | error e => rfl
  | ok k' => rfl

end Destruir

section Corridas

def trasMover (eventos : List Evento) : Option Estado :=
  guardedRun (paso configUnaCpu) (fun _ _ => true)
    (pedirSemaforo 0 ++ [.cpu 0] ++ eventos ++ despachar 2) (inicial configUnaCpu)

/-- The second carpincho destroys the semaphore that the first one waits for. -/
theorem destruido_con_espera :
    ¬ ∀ (cfg : Config) (eventos : List Evento) (k : Estado) (c : ℕ) (nombre : String)
        (position : ℕ), Reaches (paso cfg) (fun _ _ => True) (inicial cfg) eventos k →
      k.verificarExisteSem nombre = .ok (some position) →
      ∃ k', k.destruir c nombre = .ok k' ∧ Destruye k nombre position k' := by
  intro hclaim
  have hcorrida : ((trasMover (pedir .wait ++ [.cpu 0])).any fun k =>
      returns (k.verificarExisteSem "S") (fun existe => existe = some 0) &&
        returns (k.destruir 0 "S") fun k' => decide (0 ∈ k'.bloqueados) && k'.esperaA "S" 0) =
      true := by
    decide +kernel
  obtain ⟨k, hk, hespera⟩ := (Option.any_eq_true _ _).1 hcorrida
  rw [Bool.and_eq_true] at hespera
  obtain ⟨existe, hexiste, hcero⟩ := exists_of_returns hespera.1
  obtain ⟨k', hk', hespera'⟩ := exists_of_returns hespera.2
  rw [of_decide_eq_true hcero] at hexiste
  obtain ⟨k'', hk'', hdestruye⟩ := hclaim configUnaCpu _ k 0 "S" 0
    ((reaches_of_guardedRun hk).mono fun _ _ _ => trivial) hexiste
  cases hk'.symm.trans hk''
  rw [Bool.and_eq_true, decide_eq_true_eq] at hespera'
  rw [hdestruye.nadieEspera 0 hespera'.1] at hespera'
  cases hespera'.2

def esperarOtro : List Evento :=
  [.cpu 0, .recibe 0 (.semaforo ⟨.init, "T", 0⟩), .cpu 0,
    .cpu 0, .recibe 0 (.semaforo ⟨.wait, "T", 0⟩), .cpu 0, .cpu 0]

/-- The first carpincho waits for another semaphore. -/
theorem destruye_con_otro :
    ∃ k, trasMover esperarOtro = some k ∧ ∃ k', k.destruir 0 "S" = .ok k' ∧
      Destruye k "S" 0 k' := by
  have hcorrida : ((trasMover esperarOtro).any fun k =>
      returns (k.verificarExisteSem "S") (fun existe => existe = some 0) &&
        decide (k.processBlocked = [0] ∧ k.processSuspendedBlocked = [] ∧
          k.requerido 0 = some "T" ∧ k.esperaA "S" 0 = false)) = true := by
    decide +kernel
  obtain ⟨k, hk, hotro⟩ := (Option.any_eq_true _ _).1 hcorrida
  rw [Bool.and_eq_true, decide_eq_true_eq] at hotro
  obtain ⟨hexiste, hbloqueados, hsuspendidos, hrequerido, hnadie⟩ := hotro
  obtain ⟨existe, hexiste, hcero⟩ := exists_of_returns hexiste
  rw [of_decide_eq_true hcero] at hexiste
  have hsolo {p : ℕ} (hp : p ∈ k.processBlocked) : p = 0 := by
    rw [hbloqueados] at hp
    exact List.mem_singleton.1 hp
  refine ⟨k, hk, (destruye_iff 0 hexiste).2 ⟨fun p hp => ?_, fun p hp => ?_, fun p hp h => ?_⟩⟩
  · rw [hsolo hp, hrequerido]
    exact Option.some_ne_none _
  · rw [bloqueados, hsuspendidos] at hp
    rw [hsolo hp]
    exact hnadie
  · rw [hsolo hp, hrequerido] at h
    exact absurd (Option.some.inj h) (by decide)

end Corridas

end Estado

end Carpinchos.Kernel
