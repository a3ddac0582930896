import Carpinchos.Kernel.Rafagas

/-!
# Who a POST wakes

`desbloquearProcesoPorSemaforo` takes the first blocked carpincho whose `semaforoRequerido`
has the name of the semaphore. Nothing clears that field, so a carpincho that waits for a
device may still name the semaphore it last used, or none. As long as the loops do not stop
at such a carpincho, and the lock of the suspended ones is free when it is needed, a POST
wakes one that waits for its semaphore, if there is one, and nobody else. The lock is never
free while somebody is suspended, so the one woken comes from BLOCKED.
-/

namespace Carpinchos.Kernel

open Outcome Runs

def Pedido.esIo : Pedido → Bool
  | .io _ => true
  | _ => false

namespace Registro

section Definiciones

/-- The carpincho is blocked by a WAIT on this semaphore. -/
def EsperaSemaforo (r : Registro) (nombre : String) (p : ℕ) : Prop :=
  p ∈ r.kernel.bloqueados ∧ ∃ sema, r.pendiente p = some (.semaforo sema) ∧
    sema.operacion = .wait ∧ sema.nombreSem = nombre

structure Despierta (p : ℕ) (k k' : Estado) : Prop where
  bloqueados : ∃ i : ℕ, k.processBlocked[i]? = some p ∧
    k'.processBlocked = k.processBlocked.eraseIdx i
  listos : k'.processReady = k.processReady ++ [p]
  suspendidos : k'.processSuspendedBlocked = k.processSuspendedBlocked

/-- The POST of this CPU moves only a carpincho that waits for the semaphore, and moves one
if there is one. -/
structure PostCorrecto (r : Registro) (c : ℕ) (nombre : String) : Prop where
  solo : ∀ o k', r.kernel.pasoCpu c = .ok (o, k') →
    (k'.processSuspendedBlocked = r.kernel.processSuspendedBlocked ∧
        k'.processBlocked = r.kernel.processBlocked) ∨
      ∃ p, r.EsperaSemaforo nombre p ∧ Despierta p r.kernel k'
  alguno : (∃ p, r.EsperaSemaforo nombre p) →
    ∃ o k' p, r.kernel.pasoCpu c = .ok (o, k') ∧ r.EsperaSemaforo nombre p ∧
      Despierta p r.kernel k'

end Definiciones

end Registro

namespace Estado

/-- The loops stop at a control block that names the semaphore, or none. -/
def detiene (k : Estado) (nombre : String) (p : ℕ) : Bool :=
  k.requerido p = none ∨ k.requerido p = some nombre

section Busqueda

variable {k : Estado} {nombre : String} {p : ℕ} {ps : List ℕ}

theorem exists_of_requerido (h : k.requerido p = some nombre) :
    ∃ pcb, k.pcbs p = some pcb ∧ pcb.semaforoRequerido = some nombre :=
  Option.bind_eq_some_iff.1 h

theorem buscarRequerido_cons_propio (h : k.requerido p = some nombre) (i : ℕ) :
    k.buscarRequerido nombre (p :: ps) i = .ok (some i) := by
  obtain ⟨pcb, hpcb, hreq⟩ := exists_of_requerido h
  simp [buscarRequerido, leerPcb_eq_ok.2 hpcb, hreq]

theorem buscarRequerido_cons_otro (h : k.detiene nombre p = false) (i : ℕ) :
    k.buscarRequerido nombre (p :: ps) i = k.buscarRequerido nombre ps (i + 1) := by
  have hno := of_decide_eq_false h
  cases hreq : k.requerido p with
  | none => exact absurd (Or.inl hreq) hno
  | some otro =>
    have hotro : otro ≠ nombre := by
      rintro rfl
      exact hno (Or.inr hreq)
    obtain ⟨pcb, hpcb, hreq⟩ := exists_of_requerido hreq
    simp [buscarRequerido, leerPcb_eq_ok.2 hpcb, hreq, hotro]

theorem buscarRequerido_of_find_none (h : ps.find? (k.detiene nombre) = none) (i : ℕ) :
    k.buscarRequerido nombre ps i = .ok none := by
  induction ps generalizing i with
  | nil => rfl
  | cons p ps ih =>
    rw [List.find?_cons] at h
    split at h
    · cases h
    · next hp =>
      rw [buscarRequerido_cons_otro hp]
      exact ih h (i + 1)

theorem buscarRequerido_of_find (h : ps.find? (k.detiene nombre) = some p)
    (hp : k.requerido p = some nombre) (i : ℕ) :
    ∃ j, k.buscarRequerido nombre ps i = .ok (some (i + j)) ∧ ps[j]? = some p := by
  induction ps generalizing i with
  | nil => cases h
  | cons q ps ih =>
    rw [List.find?_cons] at h
    split at h
    · cases h
      exact ⟨0, buscarRequerido_cons_propio hp i, rfl⟩
    · next hq =>
      obtain ⟨j, hj, hps⟩ := ih h (i + 1)
      refine ⟨j + 1, ?_, hps⟩
      rw [buscarRequerido_cons_otro hq, hj, Nat.add_assoc, Nat.add_comm 1 j]

end Busqueda

end Estado

namespace Registro

/-- A CPU takes a request only from a carpincho that waits for nothing. -/
def sinPendiente (r : Registro) : Movimiento → Bool
  | .hilo (.recibe c _) => (r.pendiente (r.kernel.cpusExec c).pcbCarpincho).isNone
  | _ => true

/-- The carpincho at which the loops of a POST stop names the semaphore and waits for no
device, and if it is a suspended one the lock of these is free. -/
def postSeguro (r : Registro) (nombre : String) : Bool :=
  (r.kernel.bloqueados.find? (r.kernel.detiene nombre)).all (fun p =>
    decide (r.kernel.requerido p = some nombre) && !(r.pendiente p).any Pedido.esIo) &&
  !(r.kernel.processSuspendedBlocked.any (r.kernel.detiene nombre) &&
    r.kernel.colaSuspendedBlockedTomada)

section Invariante

variable {cfg : Config} {r : Registro} {m : Movimiento} {k k' : Estado}

/-- No carpincho is blocked twice, and each of them waits for the operation that blocked it. -/
structure Ordenado (r : Registro) : Prop where
  nodup : r.kernel.bloqueados.Nodup
  aparte : ∀ c, (r.kernel.cpusExec c).etapa.bloqueando →
    (r.kernel.cpusExec c).pcbCarpincho ∉ r.kernel.bloqueados
  cpus : ∀ c c', (r.kernel.cpusExec c).etapa.bloqueando → (r.kernel.cpusExec c').etapa.bloqueando →
    (r.kernel.cpusExec c).pcbCarpincho = (r.kernel.cpusExec c').pcbCarpincho → c = c'
  bloqueado : ∀ p ∈ r.kernel.bloqueados,
    ∃ pedido, r.pendiente p = some pedido ∧ r.kernel.Justifica p pedido
  porBloquear : ∀ c, (r.kernel.cpusExec c).etapa.bloqueando →
    ∃ pedido, r.pendiente (r.kernel.cpusExec c).pcbCarpincho = some pedido ∧
      r.kernel.Justifica (r.kernel.cpusExec c).pcbCarpincho pedido

theorem inicial_ordenado (cfg : Config) : (inicial cfg).Ordenado := by
  refine ⟨List.nodup_nil, ?_, ?_, ?_, ?_⟩
  · intro c hc
    cases hc
  · intro c c' hc
    cases hc
  · intro p hp
    cases hp
  · intro c hc
    cases hc

theorem justifica_mono {p : ℕ} {pedido : Pedido} (h : k.Justifica p pedido)
    (hreq : k'.requerido p = k.requerido p ∨ k'.requerido p = none) : k'.Justifica p pedido := by
  rcases h with h | ⟨sema, hpedido, hop, h⟩
  · exact Or.inl h
  · refine Or.inr ⟨sema, hpedido, hop, ?_⟩
    rcases hreq with hreq | hreq
    · rw [hreq]
      exact h
    · exact Or.inr hreq

theorem pendienteTras_of_none (r : Registro) (hm : recienPedido m k' = none) {p : ℕ}
    (hp : p ∈ r.kernel.bloqueados → p ∈ k'.bloqueados) :
    r.pendienteTras m k' p = r.pendiente p := by
  unfold pendienteTras
  rw [hm]
  dsimp only
  rw [if_neg fun h => h.2 (hp h.1)]

theorem recienPedido_of_no_recibe (hm : ∀ c pedido, m ≠ .hilo (.recibe c pedido)) :
    recienPedido m k' = none := by
  cases m with
  | deteccion i => rfl
  | hilo e =>
    cases e with
    | recibe c pedido => exact absurd rfl (hm c pedido)
    | _ => rfl

theorem Ordenado.tranquilo (h : r.Ordenado) (hm : ∀ c pedido, m ≠ .hilo (.recibe c pedido))
    (ht : r.kernel.Tranquilo k') : Ordenado ⟨k', r.pendienteTras m k'⟩ := by
  have hnone : recienPedido m k' = none := recienPedido_of_no_recibe hm
  have hsub := ht.bloqueados.subset
  refine ⟨?_, fun c hc hmem => ?_, fun c c' hc hc' heq => ?_, fun p hp => ?_, fun c hc => ?_⟩
  · obtain ⟨l, hperm, hl⟩ := ht.bloqueados
    exact hperm.nodup_iff.1 (h.nodup.sublist hl)
  · obtain ⟨hc, hpcb⟩ := ht.etapas c hc
    exact h.aparte c hc (hpcb ▸ hsub hmem)
  · obtain ⟨hc, hpcb⟩ := ht.etapas c hc
    obtain ⟨hc', hpcb'⟩ := ht.etapas c' hc'
    refine h.cpus c c' hc hc' ?_
    rw [← hpcb, ← hpcb']
    exact heq
  · obtain ⟨pedido, hpedido, hjust⟩ := h.bloqueado p (hsub hp)
    refine ⟨pedido, ?_, justifica_mono hjust (ht.requerido p)⟩
    rw [← hpedido]
    exact pendienteTras_of_none r hnone fun _ => hp
  · obtain ⟨hc, hpcb⟩ := ht.etapas c hc
    obtain ⟨pedido, hpedido, hjust⟩ := h.porBloquear c hc
    dsimp only
    rw [hpcb]
    refine ⟨pedido, ?_, justifica_mono hjust (ht.requerido _)⟩
    rw [← hpedido]
    exact pendienteTras_of_none r hnone fun hmem => absurd hmem (h.aparte c hc)

theorem pendienteTras_recibe (r : Registro) {c : ℕ} {pedido : Pedido}
    (hpcb : (k'.cpusExec c).pcbCarpincho = (r.kernel.cpusExec c).pcbCarpincho)
    (hbloqueados : k'.bloqueados = r.kernel.bloqueados) (p : ℕ) :
    r.pendienteTras (.hilo (.recibe c pedido)) k' p =
      if (k'.cpusExec c).etapa.bloqueando ∧ p = (r.kernel.cpusExec c).pcbCarpincho then
        some pedido
      else r.pendiente p := by
  unfold pendienteTras recienPedido
  dsimp only
  by_cases hsi : (k'.cpusExec c).etapa.bloqueando
  · simp only [hsi, hpcb, if_true, true_and]
  · have hno : ¬ ((k'.cpusExec c).etapa.bloqueando ∧
        p = (r.kernel.cpusExec c).pcbCarpincho) := fun h => hsi h.1
    rw [if_neg hsi, if_neg hno, hbloqueados]
    exact if_neg fun h => h.2 h.1

theorem Ordenado.recibe (h : r.Ordenado) {c : ℕ} {pedido : Pedido}
    (hlibre : r.pendiente (r.kernel.cpusExec c).pcbCarpincho = none)
    (hbloqueados : k'.bloqueados = r.kernel.bloqueados)
    (hetapas : ∀ c', c' ≠ c → k'.cpusExec c' = r.kernel.cpusExec c')
    (hpcb : (k'.cpusExec c).pcbCarpincho = (r.kernel.cpusExec c).pcbCarpincho)
    (hrequerido : ∀ p, p ≠ (r.kernel.cpusExec c).pcbCarpincho →
      k'.requerido p = r.kernel.requerido p)
    (hjustifica : (k'.cpusExec c).etapa.bloqueando →
      k'.Justifica (r.kernel.cpusExec c).pcbCarpincho pedido) :
    Ordenado ⟨k', r.pendienteTras (.hilo (.recibe c pedido)) k'⟩ := by
  have hfuera : (r.kernel.cpusExec c).pcbCarpincho ∉ r.kernel.bloqueados := by
    intro hmem
    obtain ⟨_, hpedido, _⟩ := h.bloqueado _ hmem
    rw [hlibre] at hpedido
    cases hpedido
  have hotra : ∀ c', (r.kernel.cpusExec c').etapa.bloqueando →
      (r.kernel.cpusExec c').pcbCarpincho ≠ (r.kernel.cpusExec c).pcbCarpincho := by
    intro c' hc' heq
    obtain ⟨_, hpedido, _⟩ := h.porBloquear c' hc'
    rw [heq, hlibre] at hpedido
    cases hpedido
  have hresto : ∀ p, p ≠ (r.kernel.cpusExec c).pcbCarpincho →
      ∀ pedido', r.pendiente p = some pedido' → r.kernel.Justifica p pedido' →
      r.pendienteTras (.hilo (.recibe c pedido)) k' p = some pedido' ∧ k'.Justifica p pedido' := by
    intro p hp pedido' hpedido hjust
    refine ⟨?_, justifica_mono hjust (Or.inl (hrequerido p hp))⟩
    rw [pendienteTras_recibe r hpcb hbloqueados, if_neg fun hsi => hp hsi.2, hpedido]
  constructor
  · exact hbloqueados ▸ h.nodup
  · intro c' hc'
    dsimp only at hc' ⊢
    rw [hbloqueados]
    by_cases hcc : c' = c
    · subst hcc
      rwa [hpcb]
    · rw [hetapas c' hcc] at hc' ⊢
      exact h.aparte c' hc'
  · intro c₁ c₂ h₁ h₂ heq
    dsimp only at h₁ h₂ heq
    by_cases hc₁ : c₁ = c <;> by_cases hc₂ : c₂ = c
    · rw [hc₁, hc₂]
    · subst hc₁
      rw [hetapas c₂ hc₂] at h₂ heq
      exact absurd (heq.symm.trans hpcb) (hotra c₂ h₂)
    · subst hc₂
      rw [hetapas c₁ hc₁] at h₁ heq
      exact absurd (heq.trans hpcb) (hotra c₁ h₁)
    · rw [hetapas c₁ hc₁] at h₁ heq
      rw [hetapas c₂ hc₂] at h₂ heq
      exact h.cpus c₁ c₂ h₁ h₂ heq
  · intro p hp
    dsimp only at hp
    rw [hbloqueados] at hp
    obtain ⟨pedido', hpedido, hjust⟩ := h.bloqueado p hp
    refine ⟨pedido', hresto p ?_ pedido' hpedido hjust⟩
    rintro rfl
    exact hfuera hp
  · intro c' hc'
    dsimp only at hc' ⊢
    by_cases hcc : c' = c
    · subst hcc
      rw [hpcb]
      refine ⟨pedido, ?_, hjustifica hc'⟩
      rw [pendienteTras_recibe r hpcb hbloqueados, if_pos ⟨hc', rfl⟩]
    · rw [hetapas c' hcc] at hc' ⊢
      obtain ⟨pedido', hpedido, hjust⟩ := h.porBloquear c' hc'
      exact ⟨pedido', hresto _ (hotra c' hc') pedido' hpedido hjust⟩

theorem Ordenado.entra (h : r.Ordenado) {c : ℕ}
    (hetapa : (r.kernel.cpusExec c).etapa.bloqueando)
    (hbloqueados : k'.bloqueados =
      r.kernel.bloqueados ++ [(r.kernel.cpusExec c).pcbCarpincho])
    (hetapas : ∀ c', c' ≠ c → k'.cpusExec c' = r.kernel.cpusExec c')
    (hc : (k'.cpusExec c).etapa.bloqueando = false)
    (hrequerido : ∀ p, k'.requerido p = r.kernel.requerido p) :
    Ordenado ⟨k', r.pendienteTras (.hilo (.cpu c)) k'⟩ := by
  have hotra : ∀ c', (k'.cpusExec c').etapa.bloqueando → c' ≠ c := by
    rintro c' hc' rfl
    rw [hc] at hc'
    cases hc'
  have hresto : ∀ p, (∃ pedido, r.pendiente p = some pedido ∧ r.kernel.Justifica p pedido) →
      ∃ pedido, r.pendienteTras (.hilo (.cpu c)) k' p = some pedido ∧ k'.Justifica p pedido := by
    rintro p ⟨pedido, hpedido, hjust⟩
    refine ⟨pedido, ?_, justifica_mono hjust (Or.inl (hrequerido p))⟩
    rw [← hpedido]
    apply pendienteTras_of_none r rfl
    intro hp
    rw [hbloqueados]
    exact List.mem_append_left _ hp
  constructor
  · dsimp only
    rw [hbloqueados]
    apply h.nodup.append (List.nodup_singleton _)
    exact List.disjoint_singleton.2 (h.aparte c hetapa)
  · intro c' hc'
    have hcc := hotra c' hc'
    dsimp only at hc' ⊢
    rw [hetapas c' hcc] at hc' ⊢
    rw [hbloqueados, List.mem_append, List.mem_singleton]
    rintro (hmem | heq)
    · exact h.aparte c' hc' hmem
    · exact hcc (h.cpus c' c hc' hetapa heq)
  · intro c₁ c₂ h₁ h₂ heq
    have hc₁ := hotra c₁ h₁
    have hc₂ := hotra c₂ h₂
    dsimp only at h₁ h₂ heq
    rw [hetapas c₁ hc₁] at h₁ heq
    rw [hetapas c₂ hc₂] at h₂ heq
    exact h.cpus c₁ c₂ h₁ h₂ heq
  · intro p hp
    apply hresto
    dsimp only at hp
    rw [hbloqueados, List.mem_append, List.mem_singleton] at hp
    rcases hp with hp | rfl
    · exact h.bloqueado p hp
    · exact h.porBloquear c hetapa
  · intro c' hc'
    have hcc := hotra c' hc'
    dsimp only at hc' ⊢
    rw [hetapas c' hcc] at hc' ⊢
    exact hresto _ (h.porBloquear c' hc')

theorem paso_ordenado {r' : Registro} {o : List Suceso} (h : r.Ordenado)
    (hm : r.sinPendiente m = true) (hpaso : paso cfg m r = .ok (o, r')) : r'.Ordenado := by
  obtain ⟨⟨sucesos, k'⟩, hkernel, hpaso⟩ := bind_eq_ok.1 hpaso
  cases hpaso
  cases Estado.pasoKernel_bloqueo hkernel with
  | tranquilo hno ht => exact h.tranquilo hno ht
  | recibe hbloqueados hetapas hpcb hrequerido hjustifica =>
    exact h.recibe (Option.isNone_iff_eq_none.1 hm) hbloqueados hetapas hpcb hrequerido hjustifica
  | entra hetapa hbloqueados hetapas hc hrequerido =>
    exact h.entra hetapa hbloqueados hetapas hc hrequerido

theorem corrida_ordenado {ms : List Movimiento}
    (h : Reaches (paso cfg) (fun r m => r.sinPendiente m = true) (inicial cfg) ms r) :
    r.Ordenado := by
  refine h.invariant (fun s m o s' hs hm hpaso => ?_) (inicial_ordenado cfg)
  exact paso_ordenado hs hm hpaso

theorem pasoKernel_turno {o : List Suceso} (h : pasoKernel cfg m k = .ok (o, k')) :
    ∃ t, Estado.pasoTurno cfg t k = .ok (o, k') := by
  cases m with
  | hilo e => exact ⟨.hilo e, h⟩
  | deteccion i => exact ⟨.deteccion i, h⟩

/-- Whoever would take a suspended carpincho waits for the lock. -/
theorem corrida_cerrada {ms : List Movimiento}
    (h : Reaches (paso cfg) (fun r m => r.sinPendiente m = true) (inicial cfg) ms r) :
    r.kernel.Cerrado := by
  have hpaso : ∀ (s : Registro) (m : Movimiento) (o : List Suceso) (s' : Registro),
      s.kernel.Suspende → s.sinPendiente m = true → paso cfg m s = .ok (o, s') →
      s'.kernel.Suspende := by
    intro s m o s' hs _ hpaso
    obtain ⟨⟨sucesos, k'⟩, hkernel, hpaso⟩ := bind_eq_ok.1 hpaso
    cases hpaso
    obtain ⟨t, ht⟩ := pasoKernel_turno hkernel
    exact (Estado.pasoTurno_suspende hs ht).1
  have hsuspende : r.kernel.Suspende := h.invariant hpaso (Estado.inicial_suspende cfg)
  exact hsuspende.cerrado

end Invariante

section Post

variable {r : Registro} {c p : ℕ} {nombre : String}

theorem detiene_of_espera (h : r.Ordenado) (hp : r.EsperaSemaforo nombre p) :
    r.kernel.detiene nombre p = true := by
  obtain ⟨hmem, sema, hpendiente, -, rfl⟩ := hp
  obtain ⟨pedido, hpedido, hjust⟩ := h.bloqueado p hmem
  rw [hpendiente] at hpedido
  cases hpedido
  rcases hjust with ⟨_, hio⟩ | ⟨sema', hsema, -, hreq⟩
  · cases hio
  · cases hsema
    exact decide_eq_true hreq.symm

theorem espera_of_seguro (h : r.Ordenado) (hp : p ∈ r.kernel.bloqueados)
    (hreq : r.kernel.requerido p = some nombre)
    (hio : (r.pendiente p).any Pedido.esIo = false) : r.EsperaSemaforo nombre p := by
  obtain ⟨pedido, hpedido, hjust⟩ := h.bloqueado p hp
  rw [hpedido] at hio
  rcases hjust with ⟨_, rfl⟩ | ⟨sema, rfl, hop, hsema⟩
  · cases hio
  · refine ⟨hp, sema, hpedido, hop, ?_⟩
    rw [hreq] at hsema
    rcases hsema with hsema | hsema
    · exact (Option.some.inj hsema).symm
    · cases hsema

theorem desbloquear_bloqueado {k : Estado}
    (hnone : k.processSuspendedBlocked.find? (k.detiene nombre) = none)
    (h : k.processBlocked.find? (k.detiene nombre) = some p)
    (hp : k.requerido p = some nombre) :
    ∃ o k', k.desbloquearProcesoPorSemaforo nombre = .ok (o, k') ∧ Despierta p k k' := by
  obtain ⟨j, hbusca, hj⟩ := Estado.buscarRequerido_of_find h hp 0
  obtain ⟨pcb, hpcb, -⟩ := Estado.exists_of_requerido hp
  rw [Nat.zero_add] at hbusca
  have hpaso : k.desbloquearProcesoPorSemaforo nombre = .ok ([.desbloqueado nombre p],
      { k.conPcb p { pcb with status := .ready } with
        processBlocked := k.processBlocked.eraseIdx j
        processReady := k.processReady ++ [p]
        cantidadCarpinchosEnReady := k.cantidadCarpinchosEnReady + 1 }) := by
    simp [Estado.desbloquearProcesoPorSemaforo, Estado.buscarRequerido_of_find_none hnone, hbusca,
      Estado.listGet_eq_ok.2 hj, Estado.conStatus, Estado.leerPcb_eq_ok.2 hpcb, Estado.conPcb]
  exact ⟨_, _, hpaso, ⟨j, hj, rfl⟩, rfl, rfl⟩

theorem desbloquear_nadie {k : Estado}
    (hsuspendidos : k.processSuspendedBlocked.find? (k.detiene nombre) = none)
    (hbloqueados : k.processBlocked.find? (k.detiene nombre) = none) :
    k.desbloquearProcesoPorSemaforo nombre = .ok ([], k) := by
  simp [Estado.desbloquearProcesoPorSemaforo, Estado.buscarRequerido_of_find_none hsuspendidos,
    Estado.buscarRequerido_of_find_none hbloqueados]

/-- The loop over the suspended ones stops at nobody where it needs no lock. -/
theorem nadie_suspendido {k : Estado} (hk : k.Cerrado)
    (hlock : (!(k.processSuspendedBlocked.any (k.detiene nombre) &&
      k.colaSuspendedBlockedTomada)) = true) :
    k.processSuspendedBlocked.find? (k.detiene nombre) = none := by
  rcases hk with htomada | hvacia
  · rw [htomada, Bool.and_true, Bool.not_eq_true'] at hlock
    exact List.find?_eq_none.2 (List.any_eq_false.1 hlock)
  · rw [hvacia, List.find?_nil]

/-- Where the loops stop at nobody the POST moves nobody, and where they stop it wakes. -/
theorem desbloquear_seguro (h : r.Ordenado) (hcerrado : r.kernel.Cerrado)
    (hseguro : r.postSeguro nombre = true) :
    (r.kernel.bloqueados.find? (r.kernel.detiene nombre) = none ∧
        r.kernel.desbloquearProcesoPorSemaforo nombre = .ok ([], r.kernel)) ∨
      ∃ p o k', r.EsperaSemaforo nombre p ∧
        r.kernel.desbloquearProcesoPorSemaforo nombre = .ok (o, k') ∧
        Despierta p r.kernel k' := by
  obtain ⟨hprimero, hlock⟩ := (Bool.and_eq_true _ _).mp hseguro
  cases hfind : r.kernel.bloqueados.find? (r.kernel.detiene nombre) with
  | none =>
    have hpartes := hfind
    rw [Estado.bloqueados, List.find?_append, Option.or_eq_none_iff] at hpartes
    exact Or.inl ⟨rfl, desbloquear_nadie hpartes.1 hpartes.2⟩
  | some p =>
    simp only [hfind, Option.all_some, Bool.and_eq_true, decide_eq_true_eq,
      Bool.not_eq_true'] at hprimero
    obtain ⟨hreq, hio⟩ := hprimero
    have hespera := espera_of_seguro h (List.mem_of_find?_eq_some hfind) hreq hio
    refine Or.inr ⟨p, ?_⟩
    have hsusp : r.kernel.processSuspendedBlocked.find? (r.kernel.detiene nombre) = none :=
      nadie_suspendido hcerrado hlock
    rw [Estado.bloqueados, List.find?_append, hsusp, Option.none_or] at hfind
    obtain ⟨o, k', hpaso, hdespierta⟩ := desbloquear_bloqueado hsusp hfind hreq
    exact ⟨o, k', hespera, hpaso, hdespierta⟩

theorem pasoCpu_desbloqueando {k : Estado} (hetapa : (k.cpusExec c).etapa = .desbloqueando nombre) :
    k.pasoCpu c = (do
      let r ← k.desbloquearProcesoPorSemaforo nombre
      .ok (r.2.responder c r.1)) := by
  unfold Estado.pasoCpu
  rw [hetapa]

theorem Despierta.responder {k k' : Estado} (h : Despierta p k k') (c : ℕ) (o : List Suceso) :
    Despierta p k (k'.responder c o).2 :=
  ⟨h.bloqueados, h.listos, h.suspendidos⟩

def esperaYPost (espera : Pedido) : List Movimiento :=
  List.map .hilo (Estado.pedirSemaforo 0 ++ [Evento.cpu 0, .cpu 0, .recibe 0 espera, .cpu 0,
    .cpu 0] ++ Estado.despachar 2 ++ [.recibe 0 (.semaforo ⟨.post, "S", 0⟩)])

def trasEspera (espera : Pedido) : Option Registro :=
  guardedRun (paso Estado.configUnaCpu) sinPendiente (esperaYPost espera)
    (inicial Estado.configUnaCpu)

end Post

end Registro

end Carpinchos.Kernel
