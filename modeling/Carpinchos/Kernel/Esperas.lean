import Carpinchos.Kernel.Lugares

/-!
# Waiting for a device

A carpincho that waits for a device bears a mark, and its PID is among the requests for IO until
its burst ends. The request is queued before the carpincho is in BLOCKED, so its burst must not
end in between. A burst that ends for a suspended carpincho stops the thread that serves the
requests, and those behind it wait for ever; while nobody is suspended that thread can serve them
all.
-/

namespace Carpinchos.Kernel

open Outcome Runs Queues

def Etapa.contestada : Etapa → Bool
  | .esperando | .asignada | .ciclo | .respondiendoIo | .limpiandoIo => false
  | _ => true

namespace Tablero

def Marcado (s : Tablero) (p : ℕ) : Prop := ∃ f, s.ficha p = some f ∧ f.ioFinished = true

def Bloqueado (s : Tablero) (p : ℕ) : Prop := p ∈ s.bloqueados ∨ p ∈ s.suspendidos

variable {s s' : Tablero} {p q : ℕ} {f f' : Ficha}

theorem etapa_conEtapa_self (s : Tablero) (c : ℕ) (e : Etapa) :
    ((s.conEtapa c e).cpu c).etapa = e := by rw [cpu_conEtapa_self]

theorem Marcado.of_update (h : s'.Marcado p)
    (hs : s'.ficha = Function.update s.ficha q (some f')) (hf : s.ficha q = some f)
    (hio : f'.ioFinished = true → f.ioFinished = true) : s.Marcado p := by
  obtain ⟨g, hg, hmarca⟩ := h
  rw [hs, Function.update_apply] at hg
  split at hg
  · next heq =>
    obtain rfl := Option.some.inj hg
    exact ⟨f, heq ▸ hf, hio hmarca⟩
  · exact ⟨g, hg, hmarca⟩

theorem Despierta.marcas (h : s.Despierta s') (p : ℕ) :
    (s'.Marcado p → s.Marcado p) ∧ (s'.Bloqueado p → s.Bloqueado p) := by
  cases h with
  | nadie => exact ⟨id, id⟩
  | suspendido i hi => exact ⟨id, fun hp => hp.imp id List.mem_of_mem_eraseIdx⟩
  | bloqueado j q f hj hf =>
    exact ⟨fun hp => hp.of_update rfl hf id, fun hp => hp.imp List.mem_of_mem_eraseIdx id⟩

end Tablero

namespace Estado

section Jugadas

variable {cfg : Config} {k : Estado} {m : Turno} {ps : List ℕ} {s : Tablero} {p c : ℕ}

def Bloquea (k : Estado) (m : Turno) (s : Tablero) (etapa : Etapa) (p : ℕ) : Prop :=
  ∃ c, m = .hilo (.cpu c) ∧ (k.cpusExec c).etapa = etapa ∧ (k.cpusExec c).pcbCarpincho = p ∧
    (s.cpu c).etapa = .ciclo

theorem jugada_marcado (h : Jugada cfg k m ps s) (hp : s.Marcado p) :
    k.tablero.Marcado p ∨ k.Bloquea m s .bloqueandoPorIo p := by
  cases h with
  | llegada pid =>
    obtain ⟨f', hf', hio⟩ := hp
    simp only [Tablero.conFicha, Function.update_apply] at hf'
    split at hf'
    · cases hf'
      cases hio
    · exact Or.inl ⟨f', hf', hio⟩
  | eleccion i q f halg hcorto hcero hq hf => exact Or.inl (hp.of_update rfl hf id)
  | ratio i q f halg hcorto hq hf => exact Or.inl (hp.of_update rfl hf id)
  | finIo h => exact Or.inl ((h.marcas p).1 hp)
  | fin c n hetapa hn h => exact Or.inl ((h.marcas p).1 hp)
  | liberacion q ps f hsalida hf =>
    obtain ⟨f', hf', hio⟩ := hp
    dsimp only at hf'
    rw [Function.update_apply] at hf'
    split at hf'
    · cases hf'
    · exact Or.inl ⟨f', hf', hio⟩
  | terminacion pid elegidos resto hpid hperm =>
    obtain ⟨f', hf', hio⟩ := hp
    dsimp only at hf'
    split at hf'
    · cases hf'
    · exact Or.inl ⟨f', hf', hio⟩
  | limpiezaIo c f hetapa hf => exact Or.inl (hp.of_update rfl hf fun hno => by cases hno)
  | bloqueoIo c f hetapa hf =>
    by_cases heq : p = (k.cpusExec c).pcbCarpincho
    · exact Or.inr ⟨c, rfl, hetapa, heq.symm, Tablero.etapa_conEtapa_self _ c _⟩
    · obtain ⟨f', hf', hio⟩ := hp
      exact Or.inl ⟨f', (Function.update_of_ne heq _ _).symm.trans hf', hio⟩
  | pedidoIo c nombre f hetapa hf => exact Or.inl (hp.of_update rfl hf id)
  | pedidoWait c sema f hetapa hf hop => exact Or.inl (hp.of_update rfl hf id)
  | finalizacion c f hetapa hf => exact Or.inl (hp.of_update rfl hf id)
  | _ => exact Or.inl hp

theorem jugada_bloqueado (h : Jugada cfg k m ps s) (hp : s.Bloqueado p) :
    k.tablero.Bloqueado p ∨ k.Bloquea m s .bloqueandoPorIo p ∨
      k.Bloquea m s .bloqueandoPorSemaforo p := by
  cases h with
  | finIo h => exact Or.inl ((h.marcas p).2 hp)
  | fin c n hetapa hn h => exact Or.inl ((h.marcas p).2 hp)
  | suspension q hready hblocked hnew hq =>
    refine Or.inl (hp.elim (fun hp => Or.inl (List.mem_of_mem_eraseIdx hp)) fun hp => ?_)
    rcases List.mem_append.1 hp with hp | hp
    · exact Or.inr hp
    · exact Or.inl (List.mem_singleton.1 hp ▸ List.mem_of_getElem? hq)
  | reposicion pid elegidos resto hel hpid hperm =>
    exact Or.inl (hp.imp (fun hp => hperm.mem_iff.2 (List.mem_append_left _ hp)) id)
  | terminacion pid elegidos resto hpid hperm =>
    exact Or.inl (hp.imp (fun hp => hperm.mem_iff.2 (List.mem_append_left _ hp)) id)
  | bloqueoIo c f hetapa hf =>
    rcases hp with hp | hp
    · rcases List.mem_append.1 hp with hp | hp
      · exact Or.inl (Or.inl hp)
      · exact Or.inr (Or.inl ⟨c, rfl, hetapa, (List.mem_singleton.1 hp).symm,
          Tablero.etapa_conEtapa_self _ c _⟩)
    · exact Or.inl (Or.inr hp)
  | bloqueoWait c hetapa =>
    rcases hp with hp | hp
    · rcases List.mem_append.1 hp with hp | hp
      · exact Or.inl (Or.inl hp)
      · exact Or.inr (Or.inr ⟨c, rfl, hetapa, (List.mem_singleton.1 hp).symm,
          Tablero.etapa_conEtapa_self _ c _⟩)
    · exact Or.inl (Or.inr hp)
  | _ => exact Or.inl hp

inductive Avance (k : Estado) (m : Turno) (s : Tablero) (c : ℕ) : Prop
  | mismo (h : s.cpu c = k.cpusExec c)
  | otro (h : (s.cpu c).etapa.contestada = false)
  | escucha (hpcb : (s.cpu c).pcbCarpincho = (k.cpusExec c).pcbCarpincho)
      (hetapa : (s.cpu c).etapa = .recibiendo) (h : ¬ s.Marcado (s.cpu c).pcbCarpincho)
  | recibe (hpcb : (s.cpu c).pcbCarpincho = (k.cpusExec c).pcbCarpincho)
      (hetapa : (k.cpusExec c).etapa = .recibiendo) (hm : ∃ pedido, m = .hilo (.recibe c pedido))
      (h : (s.cpu c).etapa = .bloqueandoPorIo → ∃ nombre, m = .hilo (.recibe c (.io nombre)))

theorem Avance.conEtapa {t : Tablero} {e : Etapa} {c' : ℕ} (ht : t.cpu = k.cpusExec)
    (h : c' = c → Avance k m (t.conEtapa c e) c') : Avance k m (t.conEtapa c e) c' := by
  by_cases hne : c' = c
  · exact h hne
  · exact .mismo ((Tablero.cpu_conEtapa_ne t e hne).trans (congrFun ht c'))

theorem jugada_avance (h : Jugada cfg k m ps s) (c' : ℕ) : Avance k m s c' := by
  have hotro {t : Tablero} {c : ℕ} {e : Etapa} (ht : t.cpu = k.cpusExec)
      (he : e.contestada = false) : Avance k m (t.conEtapa c e) c' := by
    refine .conEtapa ht fun heq => .otro ?_
    rw [heq, Tablero.etapa_conEtapa_self, he]
  have hrecibe {t : Tablero} {c : ℕ} {e : Etapa} {pedido : Pedido} (ht : t.cpu = k.cpusExec)
      (hetapa : (k.cpusExec c).etapa = .recibiendo) (hm : m = .hilo (.recibe c pedido))
      (he : e = .bloqueandoPorIo → ∃ nombre, m = .hilo (.recibe c (.io nombre))) :
      Avance k m (t.conEtapa c e) c' := by
    refine .conEtapa ht fun heq => ?_
    subst heq
    refine .recibe ?_ hetapa ⟨pedido, hm⟩ fun hio => he ?_
    · rw [Tablero.cpu_conEtapa_self, ht]
    · exact (Tablero.etapa_conEtapa_self _ _ _).symm.trans hio
  cases h with
  | asignacion i p c halg hcorto hc hlibre =>
    by_cases hne : c' = c
    · refine .otro ?_
      rw [hne]
      simp [Tablero.conCpu, Etapa.contestada]
    · exact .mismo (Function.update_of_ne hne _ _)
  | suelta c f hetapa hf hexec =>
    by_cases hne : c' = c
    · refine .otro ?_
      rw [hne]
      simp [Tablero.conCpu, Etapa.contestada]
    · exact .mismo (Function.update_of_ne hne _ _)
  | finIo h => exact .mismo (congrFun h.cpu_eq c')
  | comienzo c hetapa => exact hotro rfl rfl
  | bloqueoIo c f hetapa hf => exact hotro rfl rfl
  | bloqueoWait c hetapa => exact hotro rfl rfl
  | fin c n hetapa hn h => exact hotro h.cpu_eq rfl
  | memoria c hetapa => exact hotro rfl rfl
  | respuestaSemaforo c sema hetapa => exact hotro rfl rfl
  | finalizacion c f hetapa hf => exact hotro rfl rfl
  | escucha c f hetapa hf hexec hio =>
    refine .conEtapa rfl fun heq => ?_
    subst heq
    refine .escucha (by rw [Tablero.cpu_conEtapa_self]; rfl) (Tablero.etapa_conEtapa_self _ _ _) ?_
    rintro ⟨g, hg, hmarca⟩
    rw [Tablero.cpu_conEtapa_self] at hg
    obtain rfl := Option.some.inj (hf.symm.trans hg)
    rw [hio] at hmarca
    cases hmarca
  | hallaIo c f hetapa hf hexec hio => exact hotro rfl rfl
  | respuestaIo c hetapa => exact hotro rfl rfl
  | limpiezaIo c f hetapa hf =>
    refine .conEtapa rfl fun heq => ?_
    subst heq
    refine .escucha (by rw [Tablero.cpu_conEtapa_self]; rfl) (Tablero.etapa_conEtapa_self _ _ _) ?_
    rintro ⟨g, hg, hmarca⟩
    rw [Tablero.cpu_conEtapa_self] at hg
    have hg' : Function.update k.tablero.ficha (k.cpusExec c').pcbCarpincho
        (some { f with ioFinished := false }) (k.cpusExec c').pcbCarpincho = some g := hg
    rw [Function.update_self] at hg'
    cases hg'
    cases hmarca
  | pedidoIo c nombre f hetapa hf =>
    exact hrecibe rfl hetapa rfl fun _ => ⟨nombre, rfl⟩
  | pedidoWait c sema f hetapa hf hop =>
    exact hrecibe rfl hetapa rfl fun hno => by cases hno
  | pedidoSemaforo c sema etapa hetapa hatiende =>
    exact hrecibe rfl hetapa rfl fun hno => by
      rw [hno] at hatiende
      cases hatiende
  | _ => exact .mismo rfl

end Jugadas

section Pedidos

variable {cfg : Config} {k k' : Estado} {m : Turno} {p : ℕ} {pid : ℤ}

theorem tienePid_iff : k.tienePid pid p = true ↔ k.pidDe p = some pid := by
  rw [tienePid, pidDe, Option.any_eq_true, Option.map_eq_some_iff]
  simp only [decide_eq_true_eq]

theorem vivo_iff : k.tablero.Vivo p ↔ ∃ pid, k.pidDe p = some pid := by
  rw [Tablero.Vivo, tablero, Option.isSome_map, ← Option.isSome_iff_exists, pidDe,
    Option.isSome_map]

/-- The requests for IO whose burst has not ended, in the order in which they came. -/
def pedidosPendientes (k : Estado) : List ℤ := k.rafagaIO.toList ++ k.colaIO

/-- The request of the carpincho has not been served. -/
def Espera (k : Estado) (p : ℕ) : Prop := ∃ pid ∈ k.pedidosPendientes, k.pidDe p = some pid

theorem Rumbo.pedidosPendientes_eq (h : Rumbo k m k') (hk : k.Cerrado) :
    k.pedidosPendientes ++ pedidosIo k m k' = finesIo k m k' ++ k'.pedidosPendientes := by
  rw [pedidosPendientes, pedidosPendientes, List.append_assoc, h.colaIO_eq hk,
    ← List.append_assoc, h.rafagaIO_eq hk, List.append_assoc]

theorem finesIo_eq_nil (h : k'.rafagaIO = k.rafagaIO) : finesIo k m k' = [] := by
  rw [finesIo, h]
  split
  · next hnadie => rw [hnadie, Option.toList_none]
  · rfl

theorem Rumbo.fin_of_mem (h : Rumbo k m k') (hpid : pid ∈ finesIo k m k') :
    m = .hilo .planificadorIo ∧ k.rafagaIO = some pid ∧
      { k with rafagaIO := none }.desbloquearPID pid = .ok k' := by
  have hnadie (h : k'.rafagaIO = k.rafagaIO) : pid ∉ finesIo k m k' := by
    rw [finesIo_eq_nil h]
    exact List.not_mem_nil
  cases h with
  | aparte hm h => exact absurd hpid (hnadie h.rafaga)
  | reasignacion c d nombre hetapa hnombre h => exact absurd hpid (hnadie h.rafaga)
  | comienzo pid' cola n hrafaga hcola hn =>
    rw [finesIo, hrafaga] at hpid
    cases hpid
  | fin pid' hrafaga h =>
    rw [finesIo] at hpid
    split at hpid
    · rw [hrafaga, Option.mem_toList] at hpid
      obtain rfl := Option.some.inj hpid
      exact ⟨rfl, hrafaga, h⟩
    · cases hpid
  | _ => exact absurd hpid (hnadie rfl)

/-- Nobody waits for the semaphore that is destroyed. -/
def destruyeSinEsperas (k : Estado) : Etapa → Bool
  | .reasignando nombre _ => !k.loRequieren nombre k.processBlocked
  | _ => true

/-- A carpincho comes with a PID that nobody has, and the burst of a carpincho does not end before
the carpincho is in BLOCKED. -/
def pedidoSeguro (cfg : Config) (k : Estado) : Turno → Bool
  | .hilo (.llegada pid) => (List.range k.proxima).all fun p => !k.tienePid pid p
  | .hilo (.cpu c) => k.destruyeSinEsperas (k.cpusExec c).etapa
  | .hilo .planificadorIo =>
    k.rafagaIO.all fun pid => (List.range cfg.gradoMultiprocesamiento).all fun c =>
      (k.cpusExec c).etapa ≠ .bloqueandoPorIo || !k.tienePid pid (k.cpusExec c).pcbCarpincho
  | _ => true

def esperaSegura (cfg : Config) (k : Estado) (m : Turno) : Bool :=
  k.relevoSeguro cfg m && k.pedidoSeguro cfg m

theorem Rumbo.pidDe_of (h : Rumbo k m k') (hk : k.Cerrado) (hm : k.pedidoSeguro cfg m = true)
    (hpid : k'.pidDe p = some pid) :
    k.pidDe p = some pid ∨ m = .hilo (.llegada pid) ∧ p = k.proxima := by
  cases h with
  | aparte hm h => exact Or.inl (h.pids p pid hpid)
  | reasignacion c d nombre hetapa hnombre h =>
    rw [pedidoSeguro, hetapa, destruyeSinEsperas, hnombre] at hm
    cases hm
  | llegada pid' =>
    rw [pidDe, Estado.llegada] at hpid
    dsimp only at hpid
    rw [Function.update_apply] at hpid
    split at hpid
    · next hp =>
      cases hpid
      exact Or.inr ⟨rfl, hp⟩
    · exact Or.inl hpid
  | pedidoIo c nombre pcb hetapa hpcb =>
    have hmarca : k.Aparte (k.conPcb (k.cpusExec c).pcbCarpincho { pcb with status := .blocked }) :=
      (Aparte.refl k).conPcb hpcb rfl
    exact Or.inl (hmarca.pids p pid hpid)
  | fin pid' hrafaga h =>
    have haparte := desbloquearPID_aparte (k := { k with rafagaIO := none }) hk h
    exact Or.inl (haparte.pids p pid hpid)
  | _ => exact Or.inl hpid

theorem Rumbo.espera (h : Rumbo k m k') (hk : k.Colocado cfg) (hm : k.pedidoSeguro cfg m = true)
    (hvivo : k'.tablero.Vivo p) (hp : k.Espera p) :
    k'.Espera p ∨ ∃ pid ∈ finesIo k m k', k.pidDe p = some pid := by
  have hcerrado := hk.suspende.cerrado
  obtain ⟨pid, hpendiente, hpid⟩ := hp
  have hsigue : pid ∈ finesIo k m k' ++ k'.pedidosPendientes :=
    h.pedidosPendientes_eq hcerrado ▸ List.mem_append_left _ hpendiente
  rcases List.mem_append.1 hsigue with hfin | hqueda
  · exact Or.inr ⟨pid, hfin, hpid⟩
  · obtain ⟨pid', hpid'⟩ := vivo_iff.1 hvivo
    rcases h.pidDe_of hcerrado hm hpid' with hmismo | ⟨-, rfl⟩
    · obtain rfl := Option.some.inj (hpid.symm.trans hmismo)
      exact Or.inl ⟨_, hqueda, hpid'⟩
    · have hviejo := vivo_iff.2 ⟨pid, hpid⟩
      exact absurd (hk.ubicado.frescos _ hviejo) (lt_irrefl _)

end Pedidos

section Atencion

variable {cfg : Config} {k k' : Estado} {m : Turno} {o : List Suceso} {ps : List ℕ} {p c : ℕ}
  {pid : ℤ}

/-- Every carpincho that waits for a device has a request, from before it is in BLOCKED on. -/
structure Atendido (cfg : Config) (k : Estado) : Prop extends Colocado cfg k where
  pids : ∀ p q pid, k.pidDe p = some pid → k.pidDe q = some pid → p = q
  pedida : ∀ c, (k.cpusExec c).etapa = .bloqueandoPorIo → k.Espera (k.cpusExec c).pcbCarpincho
  limpia : ∀ c, (k.cpusExec c).etapa.contestada = true →
    ¬ k.tablero.Marcado (k.cpusExec c).pcbCarpincho
  espera : ∀ p, k.tablero.Bloqueado p → k.tablero.Marcado p → k.Espera p

theorem Colocado.vivo_de_bloqueado (h : k.Colocado cfg) (hp : k.tablero.Bloqueado p) :
    k.tablero.Vivo p := by
  refine (h.ubicado.reparto.mem p).2 ?_
  rcases hp with hp | hp
  · exact ⟨.bloqueados, hp⟩
  · exact ⟨.suspendidos, hp⟩

theorem Colocado.corre_contestada (h : k.Colocado cfg)
    (hc : (k.cpusExec c).etapa.contestada = true) :
    (k.cpusExec c).pcbCarpincho ∈ k.tablero.puesto (.cpu c) := by
  have hno (e : Etapa) (he : e.contestada = false) : (k.cpusExec c).etapa ≠ e := by
    rintro rfl
    rw [hc] at he
    cases he
  have hcorre := h.ubicado.corre_of_etapa (e := (k.cpusExec c).etapa) rfl (hno .esperando rfl)
    (hno .ciclo rfl)
  exact Tablero.mem_puesto_cpu.2 ⟨hcorre.1, rfl⟩

theorem Atendido.despierta (hk : k.Atendido cfg)
    (h : { k with rafagaIO := none }.desbloquearPID pid = .ok k') (hpid : k.pidDe p = some pid)
    (hp : k.tablero.Bloqueado p) : ¬ k'.tablero.Bloqueado p := by
  rcases desbloquearPID_cerrado (k := { k with rafagaIO := none }) hk.suspende.cerrado h with
    ⟨i, q, pcb, hq, hpcb, hpid', rfl⟩ | ⟨hnadie, -⟩
  · have hpidq : k.pidDe q = some pid := by
      rw [← hpid', pidDe]
      exact congrArg (Option.map Pcb.pid) hpcb
    obtain rfl := hk.pids p q pid hpid hpidq
    have hcola : p ∈ k.tablero.puesto .bloqueados := List.mem_of_getElem? hq
    have hperm : k.processBlocked.Perm (k.processBlocked.eraseIdx i ++ [p]) :=
      perm_eraseIdx_append hq
    rintro (hp' | hp')
    · have hnodup := hperm.nodup_iff.1 (hk.ubicado.reparto.nodup .bloqueados)
      exact (List.nodup_append.1 hnodup).2.2 p hp' p (List.mem_singleton_self p) rfl
    · cases hk.ubicado.reparto.disjoint .bloqueados .suspendidos p hcola hp'
  · have hesta : p ∈ k.processBlocked ++ k.processSuspendedBlocked := List.mem_append.2 hp
    have hno := hnadie p hesta
    rw [← Bool.not_eq_true] at hno
    exact absurd (tienePid_iff.2 hpid) hno

/-- The carpincho of a CPU that is about to block it is not the one of the burst that ends. -/
theorem pedidoSeguro_fin (hk : k.Colocado cfg)
    (hm : k.pedidoSeguro cfg (.hilo .planificadorIo) = true) (hrafaga : k.rafagaIO = some pid)
    (hc : (k.cpusExec c).etapa = .bloqueandoPorIo) :
    k.pidDe (k.cpusExec c).pcbCarpincho ≠ some pid := by
  intro hpid
  have hocupada : (k.cpusExec c).etapa ≠ .esperando := by simp [hc]
  have hgrado : c < cfg.gradoMultiprocesamiento := (hk.ubicado.ocupada c hocupada).2
  rw [pedidoSeguro, hrafaga, Option.all_some] at hm
  have hcpu := List.all_eq_true.1 hm c (List.mem_range.2 hgrado)
  rw [hc, tienePid_iff.2 hpid] at hcpu
  cases hcpu

theorem pidDe_ne_llegada (hk : k.Colocado cfg)
    (hm : k.pedidoSeguro cfg (.hilo (.llegada pid)) = true) : k.pidDe p ≠ some pid := by
  intro hpid
  have hp := hk.ubicado.frescos p (vivo_iff.2 ⟨pid, hpid⟩)
  have hno := List.all_eq_true.1 hm p (List.mem_range.2 hp)
  rw [tienePid_iff.2 hpid] at hno
  cases hno

theorem Rumbo.pedida (h : Rumbo k m k') (havance : Avance k m k'.tablero c)
    (hk : k.Atendido cfg) (hk' : k'.Colocado cfg) (hm : k.pedidoSeguro cfg m = true)
    (hc : (k'.cpusExec c).etapa = .bloqueandoPorIo) :
    k'.Espera (k'.cpusExec c).pcbCarpincho := by
  cases havance with
  | mismo hcpu =>
    have hcpu' : k'.cpusExec c = k.cpusExec c := hcpu
    have hvivo := hk'.ubicado.reparto.live_of_mem
      (hk'.corre_contestada (by rw [hc]; rfl))
    rw [hcpu'] at hc hvivo ⊢
    rcases h.espera hk.toColocado hm hvivo (hk.pedida c hc) with hespera | ⟨pid, hfin, hpid⟩
    · exact hespera
    · obtain ⟨rfl, hrafaga, -⟩ := h.fin_of_mem hfin
      exact absurd hpid (pedidoSeguro_fin hk.toColocado hm hrafaga hc)
  | otro hno =>
    have hno' : (k'.cpusExec c).etapa.contestada = false := hno
    rw [hc] at hno'
    cases hno'
  | escucha hpcb hetapa hno =>
    have hetapa' : (k'.cpusExec c).etapa = .recibiendo := hetapa
    rw [hc] at hetapa'
    cases hetapa'
  | recibe hpcb hetapa hpedido hio =>
    obtain ⟨nombre, rfl⟩ := hio hc
    cases h with
    | aparte hno h => exact absurd rfl (hno c nombre)
    | pedidoIo c nombre pcb hetapa hpcb' =>
      refine ⟨pcb.pid, ?_, ?_⟩
      · exact List.mem_append_right _ (List.mem_append_right _ (List.mem_singleton_self _))
      · have hcarpincho : ((((({ k with uso := false }.conPcb (k.cpusExec c).pcbCarpincho
            { pcb with status := .blocked }).encolarIo pcb.pid).conEtapa c
              .bloqueandoPorIo).cpusExec c).pcbCarpincho) = (k.cpusExec c).pcbCarpincho := hpcb
        rw [hcarpincho]
        exact (pidDe_conPcb { k with uso := false } _ { pcb with status := .blocked } _).trans
          (if_pos rfl)

theorem Avance.limpia (h : Avance k m k'.tablero c) (hk : k.Atendido cfg)
    (hmarca : ∀ p, k'.tablero.Marcado p →
      k.tablero.Marcado p ∨ k.Bloquea m k'.tablero .bloqueandoPorIo p)
    (hc : (k'.cpusExec c).etapa.contestada = true) :
    ¬ k'.tablero.Marcado (k'.cpusExec c).pcbCarpincho := by
  cases h with
  | mismo hcpu =>
    have hcpu' : k'.cpusExec c = k.cpusExec c := hcpu
    intro hno
    rw [hcpu'] at hc hno
    rcases hmarca _ hno with hantes | ⟨d, -, hetapa, hpcb, hciclo⟩
    · exact hk.limpia c hc hantes
    · -- the carpincho would be on two CPUs
      have hmia := hk.corre_contestada hc
      have hsuya := hk.corre_contestada (c := d) (by rw [hetapa]; rfl)
      rw [hpcb] at hsuya
      obtain rfl := Puesto.cpu.inj (hk.ubicado.reparto.disjoint _ _ _ hmia hsuya)
      have hciclo' : (k.cpusExec c).etapa = .ciclo := hcpu ▸ hciclo
      rw [hetapa] at hciclo'
      cases hciclo'
  | otro hno =>
    have hno' : (k'.cpusExec c).etapa.contestada = false := hno
    rw [hc] at hno'
    cases hno'
  | escucha hpcb hetapa hno => exact hno
  | recibe hpcb hetapa hpedido hio =>
    obtain ⟨pedido, rfl⟩ := hpedido
    have hpcb' : (k'.cpusExec c).pcbCarpincho = (k.cpusExec c).pcbCarpincho := hpcb
    intro hno
    rw [hpcb'] at hno
    rcases hmarca _ hno with hantes | ⟨d, hm, -⟩
    · exact hk.limpia c (by rw [hetapa]; rfl) hantes
    · cases hm

theorem pasoTurno_atendido (hk : k.Atendido cfg) (hm : k.esperaSegura cfg m = true)
    (h : pasoTurno cfg m k = .ok (o, k')) : k'.Atendido cfg := by
  rw [esperaSegura, Bool.and_eq_true] at hm
  have hk' : k'.Colocado cfg := pasoTurno_colocado hk.toColocado hm.1 h
  have hjugada := pasoTurno_jugada h
  have hcerrado := hk.suspende.cerrado
  have hrumbo : Rumbo k m k' := pasoTurno_rumbo hcerrado h
  refine ⟨hk', fun p q pid hp hq => ?_, fun c => ?_, fun c => ?_, fun p hp hmarca => ?_⟩
  · rcases hrumbo.pidDe_of hcerrado hm.2 hp with hp' | ⟨rfl, rfl⟩
    · rcases hrumbo.pidDe_of hcerrado hm.2 hq with hq' | ⟨rfl, rfl⟩
      · exact hk.pids p q pid hp' hq'
      · exact absurd hp' (pidDe_ne_llegada hk.toColocado hm.2)
    · rcases hrumbo.pidDe_of hcerrado hm.2 hq with hq' | ⟨-, rfl⟩
      · exact absurd hq' (pidDe_ne_llegada hk.toColocado hm.2)
      · rfl
  · exact hrumbo.pedida (jugada_avance hjugada c) hk hk' hm.2
  · exact (jugada_avance hjugada c).limpia hk fun p => jugada_marcado hjugada
  · have hpedida (hno : k.Bloquea m k'.tablero .bloqueandoPorIo p) : k'.Espera p := by
      obtain ⟨c, rfl, hetapa, rfl, -⟩ := hno
      rcases hrumbo.espera hk.toColocado hm.2 (hk'.vivo_de_bloqueado hp)
        (hk.pedida c hetapa) with hespera | ⟨pid, hfin, -⟩
      · exact hespera
      · cases (hrumbo.fin_of_mem hfin).1
    rcases jugada_marcado hjugada hmarca with hantes | hio
    · rcases jugada_bloqueado hjugada hp with hestaba | hio | ⟨c, -, hetapa, rfl, -⟩
      · rcases hrumbo.espera hk.toColocado hm.2 (hk'.vivo_de_bloqueado hp)
          (hk.espera p hestaba hantes) with hespera | ⟨pid, hfin, hpid⟩
        · exact hespera
        · exact absurd hp (hk.despierta (hrumbo.fin_of_mem hfin).2.2 hpid hestaba)
      · exact hpedida hio
      · exact absurd hantes (hk.limpia c (by rw [hetapa]; rfl))
    · exact hpedida hio

theorem inicial_atendido (cfg : Config) : (inicial cfg).Atendido cfg where
  toColocado := inicial_colocado cfg
  pids := fun p q pid hp => by cases hp
  pedida := fun c hc => by cases hc
  limpia := fun c hc => by cases hc
  espera := fun p hp => by cases hp <;> contradiction

end Atencion

section Corridas

variable {cfg : Config} {k k' : Estado} {m : Turno} {o : List Suceso} {p : ℕ} {pid : ℤ}

theorem reaches_atendido {ms : List Turno}
    (h : Reaches (pasoTurno cfg) (fun k m => k.esperaSegura cfg m = true) (inicial cfg) ms k) :
    k.Atendido cfg ∧ k.EnTurno :=
  ⟨h.invariant (fun _ _ _ _ hk hm hpaso => pasoTurno_atendido hk hm hpaso) (inicial_atendido cfg),
    h.invariant (fun _ _ _ _ hk _ hpaso => pasoTurno_enTurno hk hpaso) (inicial_enTurno cfg)⟩

/-- What is pending and what comes in afterwards is served in order. -/
theorem Atendido.flujo (hk : k.Atendido cfg) {ms : List Turno}
    (h : Reaches (pasoTurno cfg) (fun k m => k.esperaSegura cfg m = true) k ms k') :
    k.pedidosPendientes ++ history (pasoTurno cfg) pedidosIo ms k =
      history (pasoTurno cfg) finesIo ms k ++ k'.pedidosPendientes :=
  h.flow pedidosPendientes (fun _ _ _ _ hk hm hpaso => pasoTurno_atendido hk hm hpaso)
    (fun _ _ _ _ hk _ hpaso =>
      (pasoTurno_rumbo hk.suspende.cerrado hpaso).pedidosPendientes_eq hk.suspende.cerrado) hk

/-- No wakeup is lost. Who is in BLOCKED or suspended because of a device has its request pending,
and between two bursts the thread that serves the requests does not sleep meanwhile. -/
theorem nadie_espera_en_vano (cfg : Config) {ms : List Turno} {k : Estado}
    (h : Reaches (pasoTurno cfg) (fun k m => k.esperaSegura cfg m = true) (inicial cfg) ms k)
    {p : ℕ} (hp : p ∈ k.processBlocked ∨ p ∈ k.processSuspendedBlocked)
    (hio : k.tablero.Marcado p) :
    (∃ pid ∈ k.pedidosPendientes, k.pidDe p = some pid) ∧
      ( k.rafagaIO = none → ∃ k', k.planificadorIo = .ok k') := by
  obtain ⟨hatendido, hturno⟩ := reaches_atendido h
  have hespera := hatendido.espera p hp hio
  refine ⟨hespera, fun hnadie => (hturno.planificadorIo_iff hnadie).2 fun hcola => ?_⟩
  obtain ⟨pid, hpid, -⟩ := hespera
  rw [pedidosPendientes, hnadie, hcola] at hpid
  cases hpid

/-- Both carpinchos are in BLOCKED, and the burst of the first one runs. -/
theorem nadie_espera_en_vano_dos :
    ∃ k, Reaches (pasoTurno configUnaCpu) (fun k m => k.esperaSegura configUnaCpu m = true)
        (inicial configUnaCpu) dosPedidosIo k ∧ k.processBlocked = [0, 1] ∧
      ∃ pid ∈ k.pedidosPendientes, k.pidDe 1 = some pid := by
  have hcorrida : (guardedRun (pasoTurno configUnaCpu) (esperaSegura configUnaCpu) dosPedidosIo
      (inicial configUnaCpu)).any (fun k => k.processBlocked = [0, 1] ∧
        (k.tablero.ficha 1) = some ⟨.blocked, true⟩) = true := by
    decide +kernel
  obtain ⟨k, hk, hfin⟩ := (Option.any_eq_true _ _).1 hcorrida
  obtain ⟨hbloqueados, hficha⟩ := of_decide_eq_true hfin
  have hreaches := reaches_of_guardedRun hk
  have hp : 1 ∈ k.processBlocked := by
    rw [hbloqueados]
    decide
  exact ⟨k, hreaches, hbloqueados,
    (nadie_espera_en_vano configUnaCpu hreaches (Or.inl hp) ⟨_, hficha, rfl⟩).1⟩

structure Detiene (cfg : Config) (p : ℕ) (pid : ℤ) (k : Estado) : Prop extends
    Atendido cfg k, Retiene p k where
  conPid : k.pidDe p = some pid

theorem Retiene.bloqueado (h : k.Retiene p) : k.tablero.Bloqueado p := by
  refine Or.inr ?_
  change p ∈ k.processSuspendedBlocked
  rw [h.suspendido]
  exact List.mem_singleton_self p

theorem pasoTurno_detiene (hk : k.Detiene cfg p pid) (hm : k.esperaSegura cfg m = true)
    (h : pasoTurno cfg m k = .ok (o, k')) : k'.Detiene cfg p pid ∧ pid ∉ finesIo k m k' := by
  have hk' := pasoTurno_atendido hk.toAtendido hm h
  have hretiene' := pasoTurno_retiene hk.toRetiene h
  have hrumbo : Rumbo k m k' := pasoTurno_rumbo hk.cerrado h
  have hp := hk.toRetiene.bloqueado
  have hp' := hretiene'.bloqueado
  refine ⟨⟨hk', hretiene', ?_⟩, fun hfin => ?_⟩
  · obtain ⟨pid', hpid⟩ := vivo_iff.1 (hk'.vivo_de_bloqueado hp')
    rw [esperaSegura, Bool.and_eq_true] at hm
    rcases hrumbo.pidDe_of hk.cerrado hm.2 hpid with hmismo | ⟨-, rfl⟩
    · rw [hpid, ← hmismo, hk.conPid]
    · exact absurd (hk.ubicado.frescos _ (hk.vivo_de_bloqueado hp)) (lt_irrefl _)
  · exact hk.despierta (hrumbo.fin_of_mem hfin).2.2 hk.conPid hp hp'

theorem prefix_of_not_mem {α : Type} {antes despues fuera dentro : List α} {x : α}
    (h : antes ++ x :: despues = fuera ++ dentro) (hx : x ∉ fuera) : fuera <+: antes := by
  rcases List.append_eq_append_iff.1 h with ⟨resto, rfl, hresto⟩ | ⟨resto, rfl, -⟩
  · cases resto with
    | nil => rw [List.append_nil]
    | cons y resto =>
      rw [List.cons_append] at hresto
      obtain ⟨rfl, -⟩ := List.cons.inj hresto
      exact absurd (List.mem_append_right _ List.mem_cons_self) hx
  · exact List.prefix_append _ _

/-- A suspended carpincho that waits for a device stops the thread that serves the requests.
Whatever follows, only the bursts of the requests before its own end. -/
theorem suspendido_detiene_io (cfg : Config) {ms ms' : List Turno} {k k' : Estado}
    (h : Reaches (pasoTurno cfg) (fun k m => k.esperaSegura cfg m = true) (inicial cfg) ms k)
    (h' : Reaches (pasoTurno cfg) (fun k m => k.esperaSegura cfg m = true) k ms' k')
    {p : ℕ} (hp : p ∈ k.processSuspendedBlocked) (hio : k.tablero.Marcado p) :
    ∃ antes pid despues, k.pidDe p = some pid ∧
      k.pedidosPendientes = antes ++ pid :: despues ∧
      history (pasoTurno cfg) finesIo ms' k <+: antes := by
  have hatendido := (reaches_atendido h).1
  obtain ⟨pid, hpendiente, hpid⟩ := hatendido.espera p (Or.inr hp) hio
  obtain ⟨q, hretiene⟩ := hatendido.suspende.exists_retiene (List.ne_nil_of_mem hp)
  obtain rfl : p = q := by
    rw [hretiene.suspendido] at hp
    exact List.mem_singleton.1 hp
  have hdetiene : k.Detiene cfg p pid := ⟨hatendido, hretiene, hpid⟩
  have hpasos (fines : List ℤ) (k : Estado) (m : Turno) (o : List Suceso) (k' : Estado)
      (hinv : pid ∉ fines ∧ k.Detiene cfg p pid) (hm : k.esperaSegura cfg m = true)
      (hpaso : pasoTurno cfg m k = .ok (o, k')) :
      pid ∉ fines ++ finesIo k m k' ∧ k'.Detiene cfg p pid := by
    obtain ⟨hdetiene', hno⟩ := pasoTurno_detiene hinv.2 hm hpaso
    exact ⟨fun hsi => (List.mem_append.1 hsi).elim hinv.1 hno, hdetiene'⟩
  have hfines := h'.history_invariant hpasos ⟨List.not_mem_nil, hdetiene⟩
  obtain ⟨antes, despues, hparte⟩ := List.append_of_mem hpendiente
  have hflujo := hatendido.flujo h'
  rw [hparte, List.append_assoc, List.cons_append] at hflujo
  rw [List.nil_append] at hfines
  exact ⟨antes, pid, despues, hpid, hparte, prefix_of_not_mem hflujo hfines.1⟩

/-- The carpincho is suspended, its burst begins, and the second one makes a POST. -/
theorem suspendido_detiene_io_primero :
    ∃ k k',
      Reaches (pasoTurno configUnaCpu) (fun k m => k.esperaSegura configUnaCpu m = true)
        (inicial configUnaCpu) suspendido k ∧
      Reaches (pasoTurno configUnaCpu) (fun k m => k.esperaSegura configUnaCpu m = true) k
        trasSuspender k' ∧
      k'.rafagaIO.isSome ∧ ∃ antes pid despues, k.pidDe 0 = some pid ∧
        k.pedidosPendientes = antes ++ pid :: despues ∧
        history (pasoTurno configUnaCpu) finesIo trasSuspender k <+: antes := by
  have hcorrida : (guardedRun (pasoTurno configUnaCpu) (esperaSegura configUnaCpu) suspendido
      (inicial configUnaCpu)).any (fun k => k.processSuspendedBlocked = [0] ∧
        k.tablero.ficha 0 = some ⟨.blocked, true⟩ ∧
        (guardedRun (pasoTurno configUnaCpu) (esperaSegura configUnaCpu) trasSuspender k).any
          (fun k' => k'.rafagaIO.isSome) = true) = true := by
    decide +kernel
  obtain ⟨k, hk, hfin⟩ := (Option.any_eq_true _ _).1 hcorrida
  obtain ⟨hsuspendido, hficha, hsigue⟩ := of_decide_eq_true hfin
  obtain ⟨k', hk', hrafaga⟩ := (Option.any_eq_true _ _).1 hsigue
  have hreaches := reaches_of_guardedRun hk
  have hreaches' := reaches_of_guardedRun hk'
  have hp : 0 ∈ k.processSuspendedBlocked := by
    rw [hsuspendido]
    decide
  exact ⟨k, k', hreaches, hreaches', hrafaga,
    suspendido_detiene_io configUnaCpu hreaches hreaches' hp ⟨_, hficha, rfl⟩⟩

end Corridas

section Servicio

variable {cfg : Config} {k k' : Estado} {ps : List ℕ}

theorem exists_buscarPid (pid : ℤ) (hvivos : ∀ p ∈ ps, k.tablero.Vivo p) (i : ℕ) :
    ∃ r, k.buscarPid pid ps i = .ok r := by
  induction ps generalizing i with
  | nil => exact ⟨none, rfl⟩
  | cons p ps ih =>
    obtain ⟨_, hp⟩ := vivo_iff.1 (hvivos p List.mem_cons_self)
    obtain ⟨pcb, hpcb, -⟩ := Option.map_eq_some_iff.1 hp
    rw [buscarPid, leerPcb_eq_ok.2 hpcb, ok_bind]
    split
    · exact ⟨some i, rfl⟩
    · exact ih (fun q hq => hvivos q (List.mem_cons_of_mem p hq)) (i + 1)

theorem exists_desbloquearPID (pid : ℤ)
    (hvivos : ∀ p ∈ k.processBlocked, k.tablero.Vivo p)
    (hnadie : k.processSuspendedBlocked = []) : ∃ k', k.desbloquearPID pid = .ok k' := by
  obtain ⟨bloqueado, hbloqueado⟩ := exists_buscarPid pid hvivos 0
  unfold desbloquearPID
  rw [hbloqueado, ok_bind]
  cases bloqueado with
  | none =>
    rw [hnadie]
    exact ⟨k, rfl⟩
  | some i =>
    obtain ⟨j, p, rfl, hp, -⟩ := finds_of_buscarPid hbloqueado
    rw [Nat.zero_add]
    obtain ⟨_, hpid⟩ := vivo_iff.1 (hvivos p (List.mem_of_getElem? hp))
    obtain ⟨pcb, hpcb, -⟩ := Option.map_eq_some_iff.1 hpid
    dsimp only
    rw [listGet_eq_ok.2 hp, ok_bind, conStatus, leerPcb_eq_ok.2 hpcb, ok_bind]
    exact ⟨_, rfl⟩

def porServir (k : Estado) : ℕ := 2 * k.colaIO.length + k.rafagaIO.toList.length

/-- Nobody is suspended, and no CPU is about to block its carpincho. -/
structure Servible (cfg : Config) (k : Estado) : Prop extends Atendido cfg k where
  turno : k.EnTurno
  libre : k.processSuspendedBlocked = []
  quietas : ∀ c, (k.cpusExec c).etapa ≠ .bloqueandoPorIo

theorem Servible.esperaSegura (hk : k.Servible cfg) :
    k.esperaSegura cfg (.hilo .planificadorIo) = true := by
  refine Bool.and_eq_true_iff.2 ⟨rfl, ?_⟩
  rw [pedidoSeguro]
  cases k.rafagaIO with
  | none => rfl
  | some pid =>
    refine List.all_eq_true.2 fun c _ => ?_
    simp [hk.quietas c]

theorem Servible.exists_planificadorIo (hk : k.Servible cfg) {n : ℕ} (hn : k.porServir = n + 1) :
    ∃ k', k.planificadorIo = .ok k' ∧ k'.cpusExec = k.cpusExec ∧ k'.porServir = n := by
  rw [porServir] at hn
  unfold planificadorIo
  cases hrafaga : k.rafagaIO with
  | none =>
    rw [hk.turno.cuenta]
    cases hcola : k.colaIO with
    | nil =>
      rw [hrafaga, hcola] at hn
      cases hn
    | cons pid cola =>
      rw [hrafaga, hcola, List.length_cons, Option.toList_none, List.length_nil] at hn
      refine ⟨{ k with ejecutarIO := cola.length, colaIO := cola, rafagaIO := some pid },
        rfl, rfl, ?_⟩
      change 2 * cola.length + 1 = n
      omega
  | some pid =>
    have hvivos (p : ℕ) (hp : p ∈ k.processBlocked) : k.tablero.Vivo p :=
      hk.vivo_de_bloqueado (Or.inl hp)
    obtain ⟨k', h⟩ := exists_desbloquearPID (k := { k with rafagaIO := none }) pid hvivos hk.libre
    have hcerrado : Cerrado { k with rafagaIO := none } := hk.suspende.cerrado
    have haparte := desbloquearPID_aparte hcerrado h
    refine ⟨k', h, ?_, ?_⟩
    · rcases desbloquearPID_cerrado hcerrado h with ⟨i, p, pcb, -, -, -, rfl⟩ | ⟨-, rfl⟩ <;> rfl
    · rw [hrafaga, Option.toList_some, List.length_singleton] at hn
      rw [porServir, haparte.cola, haparte.rafaga]
      exact Nat.succ.inj hn

/-- The thread of the requests can take its steps alone until there are none. -/
theorem Servible.exists_run {n : ℕ} (hk : k.Servible cfg) (hn : k.porServir = n) :
    ∃ k', Reaches (pasoTurno cfg) (fun k m => k.esperaSegura cfg m = true) k
      (List.replicate n (.hilo .planificadorIo)) k' ∧ k'.Servible cfg ∧ k'.porServir = 0 := by
  induction n generalizing k with
  | zero => exact ⟨k, .nil k, hk, hn⟩
  | succ n ih =>
    obtain ⟨k₁, h, hcpus, hn₁⟩ := hk.exists_planificadorIo hn
    have hpaso : pasoTurno cfg (.hilo .planificadorIo) k = .ok ([], k₁) := by
      rw [pasoTurno, paso, h]
      rfl
    have hcerrado := hk.suspende.cerrado
    have hk₁ : k₁.Servible cfg := by
      refine ⟨pasoTurno_atendido hk.toAtendido hk.esperaSegura hpaso,
        pasoTurno_enTurno hk.turno hpaso, ?_, fun c => ?_⟩
      · exact ((pasoTurno_rumbo hcerrado hpaso).suspendidos_eq hcerrado (by simp)).trans hk.libre
      · rw [hcpus]
        exact hk.quietas c
    obtain ⟨k', hreaches, hk', hcero⟩ := ih hk₁ hn₁
    exact ⟨k', .cons hk.esperaSegura hpaso hreaches, hk', hcero⟩

/-- While nobody is suspended, the thread of the requests can serve alone all that are pending,
in order, and then nobody is in BLOCKED because of a device. -/
theorem sin_suspendidos_todos_servidos (cfg : Config) {ms : List Turno} {k : Estado}
    (h : Reaches (pasoTurno cfg) (fun k m => k.esperaSegura cfg m = true) (inicial cfg) ms k)
    (hnadie : k.processSuspendedBlocked = [])
    (hquietas : ∀ c < cfg.gradoMultiprocesamiento, (k.cpusExec c).etapa ≠ .bloqueandoPorIo) :
    ∃ n k', Reaches (pasoTurno cfg) (fun k m => k.esperaSegura cfg m = true) k
        (List.replicate n (.hilo .planificadorIo)) k' ∧
      history (pasoTurno cfg) finesIo (List.replicate n (.hilo .planificadorIo)) k =
        k.pedidosPendientes ∧
      ∀ p ∈ k'.processBlocked, ¬ k'.tablero.Marcado p := by
  obtain ⟨hatendido, hturno⟩ := reaches_atendido h
  have hservible : k.Servible cfg := by
    refine ⟨hatendido, hturno, hnadie, fun c hc => ?_⟩
    have hocupada : (k.cpusExec c).etapa ≠ .esperando := by simp [hc]
    exact hquietas c (hatendido.ubicado.ocupada c hocupada).2 hc
  obtain ⟨k', hreaches, hk', hcero⟩ := hservible.exists_run rfl
  have hvacia : k'.pedidosPendientes = [] := by
    rw [porServir] at hcero
    have hcola : k'.colaIO = [] := List.length_eq_zero_iff.1 (by omega)
    have hrafaga : k'.rafagaIO.toList = [] := List.length_eq_zero_iff.1 (by omega)
    rw [pedidosPendientes, hcola, hrafaga, List.append_nil]
  have hflujo := hatendido.flujo hreaches
  have hsinPedidos : history (pasoTurno cfg) pedidosIo
      (List.replicate k.porServir (.hilo .planificadorIo)) k = [] :=
    history_eq_nil (fun m hm s s' => by rw [List.eq_of_mem_replicate hm]; rfl) k
  rw [hsinPedidos, hvacia, List.append_nil, List.append_nil] at hflujo
  refine ⟨k.porServir, k', hreaches, hflujo.symm, fun p hp hio => ?_⟩
  obtain ⟨pid, hpid, -⟩ := hk'.espera p (Or.inl hp) hio
  rw [hvacia] at hpid
  cases hpid

/-- Both carpinchos are served. -/
theorem sin_suspendidos_todos_servidos_dos :
    ∃ k, Reaches (pasoTurno configUnaCpu) (fun k m => k.esperaSegura configUnaCpu m = true)
        (inicial configUnaCpu) dosPedidosIo k ∧ k.pedidosPendientes = [1, 2] ∧
      ∃ n k', Reaches (pasoTurno configUnaCpu) (fun k m => k.esperaSegura configUnaCpu m = true) k
          (List.replicate n (.hilo .planificadorIo)) k' ∧
        history (pasoTurno configUnaCpu) finesIo (List.replicate n (.hilo .planificadorIo)) k =
          k.pedidosPendientes ∧
        ∀ p ∈ k'.processBlocked, ¬ k'.tablero.Marcado p := by
  have hcorrida : (guardedRun (pasoTurno configUnaCpu) (esperaSegura configUnaCpu) dosPedidosIo
      (inicial configUnaCpu)).any (fun k => k.pedidosPendientes = [1, 2] ∧
        k.processSuspendedBlocked = [] ∧ (k.cpusExec 0).etapa = .ciclo) = true := by
    decide +kernel
  obtain ⟨k, hk, hfin⟩ := (Option.any_eq_true _ _).1 hcorrida
  obtain ⟨hpendientes, hnadie, hciclo⟩ := of_decide_eq_true hfin
  have hreaches := reaches_of_guardedRun hk
  have hquietas (c : ℕ) (hc : c < configUnaCpu.gradoMultiprocesamiento) :
      (k.cpusExec c).etapa ≠ .bloqueandoPorIo := by
    obtain rfl : c = 0 := Nat.lt_one_iff.1 hc
    simp [hciclo]
  exact ⟨k, hreaches, hpendientes,
    sin_suspendidos_todos_servidos configUnaCpu hreaches hnadie hquietas⟩

end Servicio

end Estado

end Carpinchos.Kernel
