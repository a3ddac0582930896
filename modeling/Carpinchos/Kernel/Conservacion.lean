import Carpinchos.Kernel.Colas
import Carpinchos.Kernel.SemaforoSeguro

/-!
# Conservation of the carpinchos

Every control block that has been created and not freed is in one queue, and a move takes
to another queue only the control block that it selects, as long as no IO ends and no POST is
made for a suspended carpincho: `desbloquearPID` then takes out the one at the position where
its first loop has stopped, and puts it nowhere, and `desbloquearProcesoPorSemaforo` puts
nowhere the one it has found.
-/

namespace Carpinchos.Kernel

open Outcome Queues Runs

namespace Estado

def hallados (k : Estado) (pid : ℤ) : List ℕ → List ℕ
  | [] => []
  | [p] => if k.tienePid pid p then [p] else []
  | p :: q :: ps =>
    if k.tienePid pid p then p :: k.hallados pid ps else k.hallados pid (q :: ps)

end Estado

namespace Movida

section Especificacion

def Selecciona (m : Movida) (k : Estado) (p : ℕ) : Prop :=
  match m with
  | .llegada _ => p = k.proxima
  | .admision => k.processNew.head? = some p ∧ k.processSuspendedReady = []
  | .despachoSjf elegido _ => k.processReady[elegido]? = some p
  | .despachoHrrn elegido => k.processReady[elegido]? = some p
  | .nota _ _ => False
  | .bloqueoWait c => p ∈ k.cola (.cpu c)
  | .post nombre => k.bloqueados.find? (fun q => k.requerido q = some nombre) = some p
  | .pedidoIo c => p ∈ k.cola (.cpu c)
  | .finIo => ∃ pid, k.colaIO.head? = some pid ∧
      (k.processBlocked ++ k.processSuspendedBlocked).find? (k.tienePid pid) = some p
  | .suspension => k.processReady = [] ∧ k.processNew ≠ [] ∧ k.processBlocked.getLast? = some p
  | .terminacion pid =>
    p ∈ k.hallados pid (k.processBlocked.take (k.processBlocked.length - 1))
  | .reposicion pid => p ∈ k.hallados pid k.processBlocked
  | .finalizacion c => p ∈ k.cola (.cpu c)
  | .liberacion => k.processExit.head? = some p

def libera : Movida → Bool
  | .terminacion _ | .liberacion => true
  | _ => false

def Hacia : Movida → Lugar → Prop
  | .llegada _, l => l = .new
  | .admision, l | .despachoHrrn _, l | .reposicion _, l => l = .ready
  | .despachoSjf _ _, l => ∃ c, l = .cpu c
  | .bloqueoWait _, l | .pedidoIo _, l => l = .blocked
  | .post _, l | .finIo, l => l = .ready ∨ l = .suspendedReady
  | .suspension, l => l = .suspendedBlocked
  | .finalizacion _, l => l = .exit
  | .nota _ _, _ | .terminacion _, _ | .liberacion, _ => False

/-- What a move has to do: a control block that it does not select stays where it is, and
one that it selects is freed and leaves the queues, or goes to one queue. -/
structure Correcta (m : Movida) (k k' : Estado) : Prop where
  ajenos : ∀ p, ¬ m.Selecciona k p → (k'.Vivo p ↔ k.Vivo p) ∧ ∀ l, p ∈ k'.cola l ↔ p ∈ k.cola l
  liberados : m.libera = true → ∀ p, m.Selecciona k p → ¬ k'.Vivo p ∧ ∀ l, p ∉ k'.cola l
  elegidos : m.libera = false → ∀ p, m.Selecciona k p →
    k'.Vivo p ∧ ∃ l, m.Hacia l ∧ ∀ l', p ∈ k'.cola l' ↔ l' = l

end Especificacion

end Movida

namespace Estado

/-- No IO ends for a carpincho that is only among the suspended ones, no POST is for a
semaphore that one of these requires, and the pointer without a value does not lead to
something FREE. -/
def movidaSegura (k : Estado) : Movida → Bool
  | .despachoSjf _ punteroLibre => !punteroLibre
  | .post nombre => !k.processSuspendedBlocked.any fun p => k.requerido p = some nombre
  | .finIo => k.colaIO.head?.all fun pid =>
      k.processBlocked.any (k.tienePid pid) || !k.processSuspendedBlocked.any (k.tienePid pid)
  | _ => true

inductive Conserva (k : Estado) (m : Movida) (k' : Estado) : Prop
  | quieta (hm : m.libera = false) (hproxima : k'.proxima = k.proxima) (hcola : k'.cola = k.cola)
      (hvivos : ∀ p, k'.Vivo p ↔ k.Vivo p)
      (hsel : ∀ p, m.Selecciona k p → ∃ l, m.Hacia l ∧ p ∈ k.cola l)
  | crea (hm : m.libera = false) (hproxima : k'.proxima = k.proxima + 1) (b : Lugar)
      (hb : m.Hacia b) (hcola : k'.cola = append k.cola b [k.proxima])
      (hvivos : ∀ p, k'.Vivo p ↔ k.Vivo p ∨ p = k.proxima)
      (hsel : ∀ p, m.Selecciona k p ↔ p = k.proxima)
  | traslada (hm : m.libera = false) (hproxima : k'.proxima = k.proxima) (a b : Lugar)
      (hb : m.Hacia b) (resto elegidos : List ℕ) (hperm : (k.cola a).Perm (resto ++ elegidos))
      (hcola : k'.cola = move k.cola a b resto elegidos)
      (hvivos : ∀ p, k'.Vivo p ↔ k.Vivo p) (hsel : ∀ p, m.Selecciona k p ↔ p ∈ elegidos)
  | saca (hm : m.libera = true) (hproxima : k'.proxima = k.proxima) (a : Lugar)
      (resto elegidos : List ℕ) (hperm : (k.cola a).Perm (resto ++ elegidos))
      (hcola : k'.cola = Function.update k.cola a resto)
      (hvivos : ∀ p, k'.Vivo p ↔ k.Vivo p ∧ p ∉ elegidos)
      (hsel : ∀ p, m.Selecciona k p ↔ p ∈ elegidos)

section Correccion

variable {k k' : Estado} {m : Movida}

/-- The control blocks are spread over the queues, and the next address is a new one. -/
structure Repartido (k : Estado) : Prop where
  partitions : Partitions k.Vivo k.cola
  vivos : ∀ p, k.Vivo p → p < k.proxima

theorem Conserva.repartido (h : k.Conserva m k') (hk : k.Repartido) : k'.Repartido := by
  cases h with
  | quieta hm hproxima hcola hvivos hsel =>
    constructor
    · exact hcola ▸ hk.partitions.congr hvivos
    · exact fun p hp => hproxima ▸ hk.vivos p ((hvivos p).1 hp)
  | crea hm hproxima b hb hcola hvivos hsel =>
    constructor
    · rw [hcola]
      refine (hk.partitions.append (List.nodup_singleton _) fun q hq hvivo => ?_).congr fun q => ?_
      · rw [List.mem_singleton.1 hq] at hvivo
        exact (hk.vivos _ hvivo).false
      · rw [hvivos, List.mem_singleton]
    · intro p hp
      rw [hproxima]
      rcases (hvivos p).1 hp with hp | rfl
      · exact (hk.vivos p hp).trans (Nat.lt_succ_self _)
      · exact Nat.lt_succ_self _
  | traslada hm hproxima a b hb resto elegidos hperm hcola hvivos hsel =>
    constructor
    · rw [hcola]
      exact (hk.partitions.move hperm b).congr hvivos
    · exact fun p hp => hproxima ▸ hk.vivos p ((hvivos p).1 hp)
  | saca hm hproxima a resto elegidos hperm hcola hvivos hsel =>
    constructor
    · rw [hcola]
      exact (hk.partitions.remove hperm).congr hvivos
    · exact fun p hp => hproxima ▸ hk.vivos p ((hvivos p).1 hp).1

theorem Conserva.correcta (h : k.Conserva m k') (hk : k.Repartido) : m.Correcta k k' := by
  have hpart := hk.partitions
  cases h with
  | quieta hm hproxima hcola hvivos hsel =>
    refine ⟨fun p _ => ⟨hvivos p, fun l => by rw [hcola]⟩, fun hsi => ?_, fun _ p hp => ?_⟩
    · rw [hm] at hsi
      cases hsi
    · obtain ⟨l, hl, hmem⟩ := hsel p hp
      refine ⟨(hvivos p).2 (hpart.live_of_mem hmem), l, hl, fun l' => ?_⟩
      rw [hcola]
      constructor
      · exact fun hl' => hpart.disjoint l' l p hl' hmem
      · rintro rfl
        exact hmem
  | crea hm hproxima b hb hcola hvivos hsel =>
    refine ⟨fun p hp => ?_, fun hsi => ?_, fun _ p hp => ?_⟩
    · have hne : p ≠ k.proxima := fun heq => hp ((hsel p).2 heq)
      refine ⟨by rw [hvivos]; simp [hne], fun l => ?_⟩
      rw [hcola, mem_append]
      simp [hne]
    · rw [hm] at hsi
      cases hsi
    · obtain rfl := (hsel p).1 hp
      refine ⟨(hvivos _).2 (Or.inr rfl), b, hb, fun l => ?_⟩
      have hno : k.proxima ∉ k.cola l := fun hmem =>
        (hk.vivos _ (hpart.live_of_mem hmem)).false
      rw [hcola, mem_append]
      simp [hno]
  | traslada hm hproxima a b hb resto elegidos hperm hcola hvivos hsel =>
    refine ⟨fun p hp => ⟨hvivos p, fun l => ?_⟩, fun hsi => ?_, fun _ p hp => ?_⟩
    · rw [hcola, hpart.mem_move hperm]
      simp [(hsel p).not.1 hp]
    · rw [hm] at hsi
      cases hsi
    · have hmem := (hsel p).1 hp
      have hlive := hpart.live_of_mem (hperm.mem_iff.2 (List.mem_append_right resto hmem))
      refine ⟨(hvivos p).2 hlive, b, hb, fun l => ?_⟩
      rw [hcola, hpart.mem_move hperm]
      simp [hmem]
  | saca hm hproxima a resto elegidos hperm hcola hvivos hsel =>
    refine ⟨fun p hp => ?_, fun _ p hp => ?_, fun hno => ?_⟩
    · have hmem := (hsel p).not.1 hp
      refine ⟨by rw [hvivos]; simp [hmem], fun l => ?_⟩
      rw [hcola, hpart.mem_remove hperm]
      simp [hmem]
    · have hmem := (hsel p).1 hp
      refine ⟨fun hvivo => ((hvivos p).1 hvivo).2 hmem, fun l hl => ?_⟩
      rw [hcola, hpart.mem_remove hperm] at hl
      exact hl.2 hmem
    · rw [hm] at hno
      cases hno

end Correccion

section Movidas

variable {cfg : Config} {k k' : Estado} {c p i : ℕ} {pid : ℤ} {nombre : String}

theorem vivo_of_leerPcb {pcb : Pcb} (h : k.leerPcb p = .ok pcb) : k.Vivo p := by
  rw [Vivo, leerPcb_eq_ok.1 h]
  rfl

theorem vivo_conPcb {pcb : Pcb} (hp : k.Vivo p) (q : ℕ) : (k.conPcb p pcb).Vivo q ↔ k.Vivo q := by
  unfold Vivo conPcb
  by_cases hq : q = p
  · subst hq
    simp only [Function.update_self, Option.isSome_some, true_iff]
    exact hp
  · simp [hq]

theorem vivo_liberarPcb (k : Estado) (p q : ℕ) :
    (k.liberarPcb p).Vivo q ↔ k.Vivo q ∧ q ≠ p := by
  unfold Vivo liberarPcb
  by_cases hq : q = p
  · subst hq
    simp
  · simp [hq]

theorem conStatus_quieta {status : Status} (h : k.conStatus p status = .ok k') :
    k'.cola = k.cola ∧ (∀ q, k'.Vivo q ↔ k.Vivo q) ∧ k'.proxima = k.proxima := by
  obtain ⟨pcb, hpcb, h⟩ := bind_eq_ok.1 h
  cases h
  exact ⟨rfl, vivo_conPcb (vivo_of_leerPcb hpcb), rfl⟩

theorem cola_conCpu (k : Estado) (c : ℕ) (cpu : Cpu) :
    (k.conCpu c cpu).cola =
      Function.update k.cola (.cpu c) (if cpu.libre then [] else [cpu.pcbCarpincho]) := by
  funext l
  cases l with
  | cpu c' =>
    by_cases hc : c' = c
    · subst hc
      simp [cola, conCpu]
    · simp [cola, conCpu, hc]
  | _ => rfl

theorem cola_soltarCpu (k : Estado) (c : ℕ) :
    (k.soltarCpu c).cola = Function.update k.cola (.cpu c) [] := cola_conCpu _ c _

theorem enCpu_eq_ok (h : k.enCpu c = .ok p) : k.cola (.cpu c) = [p] := by
  unfold enCpu at h
  split at h
  · cases h
  · next hlibre =>
    cases h
    exact if_neg hlibre

theorem traslada_deCpu {m : Movida} {b : Lugar} {k₁ : Estado} (h : k.enCpu c = .ok p)
    (hm : m.libera = false) (hb : m.Hacia b) (hbc : b ≠ .cpu c)
    (hsel : ∀ q, m.Selecciona k q ↔ q ∈ k.cola (.cpu c))
    (hcola : k₁.cola = append k.cola b [p]) (hvivos : ∀ q, k₁.Vivo q ↔ k.Vivo q)
    (hproxima : k₁.proxima = k.proxima) : k.Conserva m (k₁.soltarCpu c) := by
  have hcpu := enCpu_eq_ok h
  refine .traslada hm hproxima (.cpu c) b hb [] [p] ?_ ?_ hvivos fun q => ?_
  · rw [hcpu, List.nil_append]
  · rw [cola_soltarCpu, hcola, update_append hbc]
    rfl
  · rw [hsel, hcpu]

theorem bloquearPorSemaforo_conserva (h : k.bloquearPorSemaforo c = .ok k') :
    k.Conserva (.bloqueoWait c) k' := by
  obtain ⟨p, hp, h⟩ := bind_eq_ok.1 h
  obtain ⟨k₁, h₁, h⟩ := bind_eq_ok.1 h
  cases h
  obtain ⟨hcola, hvivos, hproxima⟩ := conStatus_quieta h₁
  refine traslada_deCpu hp rfl rfl (by simp) (fun _ => Iff.rfl) ?_ hvivos hproxima
  rw [← hcola]
  funext l
  cases l <;> rfl

theorem bloquearPorIo_conserva (h : k.bloquearPorIo c = .ok k') :
    k.Conserva (.pedidoIo c) k' := by
  obtain ⟨p, hp, h⟩ := bind_eq_ok.1 h
  obtain ⟨pcb, hpcb, h⟩ := bind_eq_ok.1 h
  cases h
  refine traslada_deCpu hp rfl rfl (by simp) (fun _ => Iff.rfl) ?_
    (vivo_conPcb (vivo_of_leerPcb hpcb)) rfl
  funext l
  cases l <;> rfl

theorem finalizar_conserva (h : k.finalizar c = .ok k') : k.Conserva (.finalizacion c) k' := by
  obtain ⟨p, hp, h⟩ := bind_eq_ok.1 h
  obtain ⟨k₁, h₁, h⟩ := bind_eq_ok.1 h
  cases h
  obtain ⟨hcola, hvivos, hproxima⟩ := conStatus_quieta h₁
  refine traslada_deCpu hp rfl rfl (by simp) (fun _ => Iff.rfl) ?_ hvivos hproxima
  rw [← hcola]
  funext l
  cases l <;> rfl

theorem notar_conserva (h : k.notar c nombre = .ok k') : k.Conserva (.nota c nombre) k' := by
  obtain ⟨p, hp, h⟩ := bind_eq_ok.1 h
  obtain ⟨pcb, hpcb, h⟩ := bind_eq_ok.1 h
  cases h
  exact .quieta rfl rfl rfl (vivo_conPcb (vivo_of_leerPcb hpcb)) fun _ hsel => hsel.elim

theorem admitir_conserva (h : k.admitir = .ok k') : k.Conserva .admision k' := by
  unfold admitir at h
  split at h
  · next hcond =>
    obtain ⟨⟨p, ps⟩, hpop, h⟩ := bind_eq_ok.1 h
    cases h
    have hnew : k.processNew = p :: ps := by
      cases hlista : k.processNew with
      | nil => exact absurd hlista hcond.1
      | cons q qs =>
        rw [hlista] at hpop
        cases hpop
        rfl
    refine .traslada rfl rfl .new .ready rfl ps [p] ?_ ?_ (fun _ => Iff.rfl) fun q => ?_
    · simp only [cola, hnew]
      exact (List.perm_append_singleton p ps).symm
    · funext l
      cases l <;> rfl
    · simp [Movida.Selecciona, hnew, hcond.2, eq_comm]
  · next hcond =>
    cases h
    refine .quieta rfl rfl rfl (fun _ => Iff.rfl) fun p hsel => absurd ⟨?_, hsel.2⟩ hcond
    intro hnil
    rw [Movida.Selecciona, hnil] at hsel
    cases hsel.1

theorem suspender_conserva (h : k.suspender = .ok k') : k.Conserva .suspension k' := by
  unfold suspender at h
  split at h
  · next hcond =>
    obtain ⟨p, hp, h⟩ := bind_eq_ok.1 h
    cases h
    have hlast := listGet_eq_ok.1 hp
    refine .traslada rfl rfl .blocked .suspendedBlocked rfl _ [p]
      (perm_eraseIdx_append hlast) ?_ (fun _ => Iff.rfl) fun q => ?_
    · funext l
      cases l <;> rfl
    · rw [← List.getLast?_eq_getElem?] at hlast
      simp [Movida.Selecciona, hcond, hlast, eq_comm]
  · next hcond =>
    cases h
    refine .quieta rfl rfl rfl (fun _ => Iff.rfl) fun p hsel => ?_
    obtain ⟨hready, hnew, hlast⟩ := hsel
    refine absurd ⟨hready, ?_, hnew⟩ hcond
    intro hnil
    rw [hnil] at hlast
    cases hlast

theorem liberar_conserva (h : k.liberar = .ok k') : k.Conserva .liberacion k' := by
  unfold liberar at h
  cases hexit : k.processExit with
  | nil =>
    rw [hexit] at h
    cases h
    have hcola : k.cola .exit = [] := hexit
    refine .saca rfl rfl .exit [] [] ?_ ?_ (fun p => by simp) fun p => ?_
    · rw [hcola]
      rfl
    · rw [← hcola, Function.update_eq_self]
    · simp [Movida.Selecciona, hexit]
  | cons p ps =>
    rw [hexit] at h
    obtain ⟨pcb, -, h⟩ := bind_eq_ok.1 h
    cases h
    refine .saca rfl rfl .exit ps [p] ?_ ?_ (fun q => ?_) fun q => ?_
    · simp only [cola, hexit]
      exact (List.perm_append_singleton p ps).symm
    · funext l
      cases l <;> rfl
    · rw [List.mem_singleton]
      exact vivo_liberarPcb k p q
    · simp [Movida.Selecciona, hexit, eq_comm]

theorem llegada_conserva (k : Estado) (pid : ℤ) : k.Conserva (.llegada pid) (k.llegada pid) := by
  refine .crea rfl rfl .new rfl ?_ (fun q => ?_) fun q => Iff.rfl
  · funext l
    cases l <;> rfl
  · unfold Vivo llegada
    by_cases hq : q = k.proxima
    · simp [hq]
    · simp [hq]

theorem despacharHrrn_conserva (h : k.despacharHrrn i = .ok k') :
    k.Conserva (.despachoHrrn i) k' := by
  obtain ⟨p, hp, h⟩ := bind_eq_ok.1 h
  obtain ⟨hcola, hvivos, hproxima⟩ := conStatus_quieta h
  refine .quieta rfl hproxima hcola hvivos fun q hq => ⟨.ready, rfl, ?_⟩
  exact List.mem_of_getElem? hq

theorem cola_of_buscarCPULibre (h : k.buscarCPULibre cfg = .ok c) : k.cola (.cpu c) = [] := by
  unfold buscarCPULibre at h
  split at h
  · next hfind =>
    cases h
    exact if_pos (List.find?_some hfind)
  · cases h

theorem despacharSjf_conserva (h : k.despacharSjf cfg i false = .ok k') :
    k.Conserva (.despachoSjf i false) k' := by
  obtain ⟨⟨p, k₁⟩, h₁, h⟩ := bind_eq_ok.1 h
  obtain ⟨q, hq, h₁⟩ := bind_eq_ok.1 h₁
  cases h₁
  obtain ⟨k₂, h₂, h⟩ := bind_eq_ok.1 h
  obtain ⟨hcola, hvivos, hproxima⟩ := conStatus_quieta h₂
  obtain ⟨c, hc, h⟩ := bind_eq_ok.1 h
  cases h
  have hp := listGet_eq_ok.1 hq
  have hlibre : k.cola (.cpu c) = [] := by
    rw [← cola_of_buscarCPULibre hc, hcola]
    rfl
  have hready : k₂.cola = Function.update k.cola .ready (k.processReady.eraseIdx i) := by
    rw [hcola]
    funext l
    cases l <;> rfl
  refine .traslada rfl hproxima .ready (.cpu c) ⟨c, rfl⟩ _ [p] (perm_eraseIdx_append hp) ?_ hvivos
    fun q => ?_
  · rw [cola_conCpu, hready, move, append, Function.update_of_ne (by simp), hlibre]
    rfl
  · rw [Movida.Selecciona, hp, Option.some_inj, List.mem_singleton, eq_comm]

theorem finds_of_buscarRequerido {ps : List ℕ} {n : ℕ} {o : Option ℕ}
    (h : k.buscarRequerido nombre ps n = .ok o) :
    Finds (fun p => k.requerido p = some nombre) ps n o := by
  induction ps generalizing n with
  | nil =>
    cases h
    rfl
  | cons p ps ih =>
    obtain ⟨pcb, hpcb, h⟩ := bind_eq_ok.1 h
    have hreq : k.requerido p = pcb.semaforoRequerido := by
      rw [requerido, leerPcb_eq_ok.1 hpcb]
      rfl
    split at h
    · cases h
    · next requerido hsem =>
      rw [hsem] at hreq
      split at h
      · next heq =>
        cases h
        exact finds_cons_pos (by simp [hreq, heq])
      · next hne =>
        exact finds_cons_neg (by simp [hreq, hne]) (ih h)

theorem tienePid_of_leerPcb {pcb : Pcb} (h : k.leerPcb p = .ok pcb) (pid : ℤ) :
    k.tienePid pid p = decide (pcb.pid = pid) := by
  rw [tienePid, leerPcb_eq_ok.1 h]
  rfl

theorem finds_of_buscarPid {ps : List ℕ} {n : ℕ} {o : Option ℕ}
    (h : k.buscarPid pid ps n = .ok o) : Finds (k.tienePid pid) ps n o := by
  induction ps generalizing n with
  | nil =>
    cases h
    rfl
  | cons p ps ih =>
    obtain ⟨pcb, hpcb, h⟩ := bind_eq_ok.1 h
    have hpid := tienePid_of_leerPcb hpcb pid
    split at h
    · next heq =>
      cases h
      exact finds_cons_pos (by simp [hpid, heq])
    · next hne => exact finds_cons_neg (by simp [hpid, hne]) (ih h)

theorem post_conserva {o : List Suceso} (h : k.desbloquearProcesoPorSemaforo nombre = .ok (o, k'))
    (hseguro : k.movidaSegura (.post nombre) = true) : k.Conserva (.post nombre) k' := by
  obtain ⟨suspendido, hs, h⟩ := bind_eq_ok.1 h
  have hs := finds_of_buscarRequerido hs
  rw [movidaSegura, Bool.not_eq_true'] at hseguro
  cases suspendido with
  | some i =>
    obtain ⟨j, p, -, hj, hp⟩ := hs
    exact absurd (List.find?_some hp) (List.any_eq_false.1 hseguro p (List.mem_of_getElem? hj))
  | none =>
    obtain ⟨bloqueado, hb, h⟩ := bind_eq_ok.1 h
    have hb := finds_of_buscarRequerido hb
    cases bloqueado with
    | some j =>
      obtain ⟨p, hp, h⟩ := bind_eq_ok.1 h
      obtain ⟨k₁, h₁, h⟩ := bind_eq_ok.1 h
      obtain ⟨pcb, hpcb, h₁⟩ := bind_eq_ok.1 h₁
      cases h₁
      cases h
      have hp := listGet_eq_ok.1 hp
      refine .traslada rfl rfl .blocked .ready (Or.inl rfl) _ [p]
        (perm_eraseIdx_append hp) ?_ (vivo_conPcb (vivo_of_leerPcb hpcb)) fun q => ?_
      · funext l
        cases l <;> rfl
      · rw [Movida.Selecciona, bloqueados, List.find?_append, hs, Option.none_or, hb.of_zero hp,
          Option.some_inj, List.mem_singleton, eq_comm]
    | none =>
      cases h
      refine .quieta rfl rfl rfl (fun _ => Iff.rfl) fun p hsel => ?_
      rw [Movida.Selecciona, bloqueados, List.find?_append, hs, hb] at hsel
      cases hsel

/-- The end of an IO for a blocked carpincho, or for one that is nowhere. -/
theorem terminarIo_conserva (h : k.terminarIo = .ok k') (hseguro : k.movidaSegura .finIo = true) :
    k.Conserva .finIo k' := by
  unfold terminarIo at h
  cases hcola : k.colaIO with
  | nil =>
    rw [hcola] at h
    cases h
  | cons pid pids =>
    rw [hcola] at h
    simp only [movidaSegura, hcola, List.head?_cons, Option.all_some] at hseguro
    obtain ⟨bloqueado, hb, h⟩ := bind_eq_ok.1 h
    have hb := finds_of_buscarPid hb
    change Finds (k.tienePid pid) k.processBlocked 0 bloqueado at hb
    cases bloqueado with
    | some i =>
      obtain ⟨p, hp, h⟩ := bind_eq_ok.1 h
      obtain ⟨k₁, h₁, h⟩ := bind_eq_ok.1 h
      obtain ⟨pcb, hpcb, h₁⟩ := bind_eq_ok.1 h₁
      cases h₁
      cases h
      have hp := listGet_eq_ok.1 hp
      refine .traslada rfl rfl .blocked .ready (Or.inl rfl) _ [p]
        (perm_eraseIdx_append hp) ?_ (vivo_conPcb (vivo_of_leerPcb hpcb)) fun q => ?_
      · funext l
        cases l <;> rfl
      · simp only [Movida.Selecciona, hcola, List.head?_cons, Option.some_inj, exists_eq_left',
          List.find?_append, hb.of_zero hp, Option.some_or, List.mem_singleton, eq_comm]
    | none =>
      obtain ⟨suspendido, hs, h⟩ := bind_eq_ok.1 h
      have hs := finds_of_buscarPid hs
      change Finds (k.tienePid pid) k.processSuspendedBlocked 0 suspendido at hs
      have hnadie : k.processBlocked.any (k.tienePid pid) = false :=
        List.any_eq_false.2 (List.find?_eq_none.1 hb)
      rw [hnadie, Bool.false_or, Bool.not_eq_true'] at hseguro
      cases suspendido with
      | some i =>
        obtain ⟨j, p, -, hj, hp⟩ := hs
        exact absurd (List.find?_some hp)
          (List.any_eq_false.1 hseguro p (List.mem_of_getElem? hj))
      | none =>
        cases h
        refine .quieta rfl rfl rfl (fun _ => Iff.rfl) fun p hsel => ?_
        obtain ⟨pid', hpid, hsel⟩ := hsel
        rw [hcola] at hpid
        cases hpid
        rw [List.find?_append, hb, hs] at hsel
        cases hsel

section Barrido

variable {accion : Estado → ℕ → Estado} {ps resto : List ℕ}

theorem hallados_congr {k₁ : Estado} (h : ∀ q ∈ ps, k₁.pcbs q = k.pcbs q) :
    k₁.hallados pid ps = k.hallados pid ps := by
  have hpid : ∀ q ∈ ps, k₁.tienePid pid q = k.tienePid pid q := by
    intro q hq
    rw [tienePid, tienePid, h q hq]
  clear h
  induction ps using hallados.induct k pid with
  | case1 => rfl
  | case2 p hp => simp [hallados, hpid p (by simp)]
  | case3 p hp => simp [hallados, hpid p (by simp)]
  | case4 p q ps hp ih =>
    rw [hallados, hallados, hpid p (by simp), if_pos hp, if_pos hp]
    rw [ih fun q hq => hpid q (by simp [hq])]
  | case5 p q ps hp ih =>
    rw [hallados, hallados, hpid p (by simp), if_neg hp, if_neg hp]
    exact ih fun q' hq => hpid q' (List.mem_cons_of_mem p hq)

/-- The loop takes out the control blocks that it finds, and treats each of them. -/
theorem barrer_eq_ok (haccion : ∀ k p q, q ≠ p → (accion k p).pcbs q = k.pcbs q)
    (hps : ps.Nodup) (h : barrer pid accion k ps = .ok (resto, k')) :
    ps.Perm (resto ++ k.hallados pid ps) ∧ k' = (k.hallados pid ps).foldl accion k := by
  induction k, ps using barrer.induct accion generalizing resto k' with
  | case1 k =>
    cases h
    exact ⟨List.Perm.refl _, rfl⟩
  | case2 k p =>
    obtain ⟨pcb, hpcb, h⟩ := bind_eq_ok.1 h
    have hpid := tienePid_of_leerPcb hpcb pid
    split at h
    · next heq =>
      cases h
      simp [hallados, hpid, heq]
    · next hne =>
      cases h
      simp [hallados, hpid, hne]
  | case3 k p q ps ih ih' =>
    obtain ⟨pcb, hpcb, h⟩ := bind_eq_ok.1 h
    have hpid := tienePid_of_leerPcb hpcb pid
    obtain ⟨hp, hqps⟩ := List.nodup_cons.1 hps
    split at h
    · next heq =>
      obtain ⟨⟨r, k₁⟩, h₁, h⟩ := bind_eq_ok.1 h
      cases h
      obtain ⟨hperm, hk⟩ := ih hqps.of_cons h₁
      have hcongr : (accion k p).hallados pid ps = k.hallados pid ps := by
        apply hallados_congr
        intro q' hq'
        apply haccion
        rintro rfl
        exact hp (List.mem_cons_of_mem q hq')
      rw [hcongr] at hperm hk
      have hhallados : k.hallados pid (p :: q :: ps) = p :: k.hallados pid ps := by
        rw [hallados, hpid, if_pos (decide_eq_true heq)]
      rw [hhallados]
      have hmedio : (q :: r ++ p :: k.hallados pid ps).Perm
          (p :: q :: (r ++ k.hallados pid ps)) := List.perm_middle
      exact ⟨((hperm.cons q).cons p).trans hmedio.symm, hk⟩
    · next hne =>
      obtain ⟨⟨r, k₁⟩, h₁, h⟩ := bind_eq_ok.1 h
      cases h
      obtain ⟨hperm, hk⟩ := ih' hqps h₁
      have hhallados : k.hallados pid (p :: q :: ps) = k.hallados pid (q :: ps) := by
        rw [hallados, hpid, if_neg (by simpa using hne)]
      rw [hhallados]
      exact ⟨hperm.cons p, hk⟩

theorem foldl_liberarPcb (k : Estado) (ps : List ℕ) :
    (ps.foldl liberarPcb k).cola = k.cola ∧
      (∀ q, (ps.foldl liberarPcb k).Vivo q ↔ k.Vivo q ∧ q ∉ ps) ∧
      (ps.foldl liberarPcb k).proxima = k.proxima := by
  induction ps generalizing k with
  | nil => simp
  | cons p ps ih =>
    obtain ⟨hcola, hvivos, hproxima⟩ := ih (k.liberarPcb p)
    refine ⟨hcola, fun q => ?_, hproxima⟩
    rw [List.foldl_cons, hvivos, vivo_liberarPcb, List.mem_cons]
    tauto

theorem foldl_agregarReady (k : Estado) (ps : List ℕ) :
    (ps.foldl agregarReady k).cola = append k.cola .ready ps ∧
      (∀ q, (ps.foldl agregarReady k).Vivo q ↔ k.Vivo q) ∧
      (ps.foldl agregarReady k).proxima = k.proxima := by
  induction ps generalizing k with
  | nil =>
    refine ⟨?_, fun _ => Iff.rfl, rfl⟩
    rw [append, List.append_nil, Function.update_eq_self]
    rfl
  | cons p ps ih =>
    obtain ⟨hcola, hvivos, hproxima⟩ := ih (k.agregarReady p)
    refine ⟨hcola.trans ?_, hvivos, hproxima⟩
    have hpaso : (k.agregarReady p).cola = append k.cola .ready [p] := by
      funext l
      cases l <;> rfl
    simp [hpaso, append]

theorem terminarProceso_conserva (hk : k.processBlocked.Nodup)
    (h : k.terminarProceso pid = .ok k') : k.Conserva (.terminacion pid) k' := by
  obtain ⟨⟨resto, k₁⟩, h₁, h⟩ := bind_eq_ok.1 h
  cases h
  have hlibera : ∀ k p q, q ≠ p → (liberarPcb k p).pcbs q = k.pcbs q := fun k p q hq =>
    Function.update_of_ne hq _ _
  obtain ⟨hperm, rfl⟩ := barrer_eq_ok hlibera (hk.sublist (List.take_sublist _ _)) h₁
  obtain ⟨hcola, hvivos, hproxima⟩ := foldl_liberarPcb k
    (k.hallados pid (k.processBlocked.take (k.processBlocked.length - 1)))
  refine .saca rfl hproxima .blocked (resto ++ k.processBlocked.drop (k.processBlocked.length - 1))
    _ ?_ ?_ hvivos fun _ => Iff.rfl
  · have hpartes := hperm.append_right (k.processBlocked.drop (k.processBlocked.length - 1))
    rw [List.take_append_drop, List.append_assoc] at hpartes
    refine hpartes.trans ?_
    rw [List.append_assoc]
    exact List.perm_append_comm.append_left resto
  · rw [← hcola]
    funext l
    cases l <;> rfl

theorem pasarDeBloqueadoAReady_conserva (hk : k.processBlocked.Nodup)
    (h : k.pasarDeBloqueadoAReady pid = .ok k') : k.Conserva (.reposicion pid) k' := by
  obtain ⟨⟨resto, k₁⟩, h₁, h⟩ := bind_eq_ok.1 h
  cases h
  have hagrega : ∀ k p q, q ≠ p → (agregarReady k p).pcbs q = k.pcbs q := fun _ _ _ _ => rfl
  obtain ⟨hperm, rfl⟩ := barrer_eq_ok hagrega hk h₁
  obtain ⟨hcola, hvivos, hproxima⟩ := foldl_agregarReady k (k.hallados pid k.processBlocked)
  refine .traslada rfl hproxima .blocked .ready rfl resto _ hperm ?_ hvivos fun _ => Iff.rfl
  rw [move, ← update_append (by simp), ← hcola]
  funext l
  cases l <;> rfl

end Barrido

/-- What each move does, said once. -/
theorem mover_conserva {m : Movida} (hk : k.Repartido) (hseguro : k.movidaSegura m = true)
    (h : mover cfg m k = .ok k') : k.Conserva m k' := by
  have hblocked : k.processBlocked.Nodup := hk.partitions.nodup .blocked
  cases m with
  | llegada pid =>
    cases h
    exact llegada_conserva k pid
  | admision => exact admitir_conserva h
  | despachoSjf elegido punteroLibre =>
    obtain rfl : punteroLibre = false := by simpa [movidaSegura] using hseguro
    exact despacharSjf_conserva h
  | despachoHrrn elegido => exact despacharHrrn_conserva h
  | nota c nombre => exact notar_conserva h
  | bloqueoWait c => exact bloquearPorSemaforo_conserva h
  | post nombre =>
    obtain ⟨⟨o, k₁⟩, h₁, h⟩ := bind_eq_ok.1 h
    cases h
    exact post_conserva h₁ hseguro
  | pedidoIo c => exact bloquearPorIo_conserva h
  | finIo => exact terminarIo_conserva h hseguro
  | suspension => exact suspender_conserva h
  | terminacion pid => exact terminarProceso_conserva hblocked h
  | reposicion pid => exact pasarDeBloqueadoAReady_conserva hblocked h
  | finalizacion c => exact finalizar_conserva h
  | liberacion => exact liberar_conserva h

theorem inicial_repartido (cfg : Config) : (inicial cfg).Repartido := by
  have hcola : ∀ l, (inicial cfg).cola l = [] := by
    intro l
    cases l <;> rfl
  constructor
  · refine ⟨fun l => ?_, fun a b p hp => ?_, fun p => ?_⟩
    · rw [hcola]
      exact List.nodup_nil
    · rw [hcola] at hp
      cases hp
    · constructor
      · intro hvivo
        cases hvivo
      · rintro ⟨l, hl⟩
        rw [hcola] at hl
        cases hl
  · intro p hp
    cases hp

theorem corrida_repartida {ms : List Movida}
    (h : Reaches (pasoMovida cfg) (fun k m => k.movidaSegura m = true) (inicial cfg) ms k) :
    k.Repartido := by
  refine h.invariant (fun k m o k' hk hm hpaso => ?_) (inicial_repartido cfg)
  obtain ⟨k₁, h₁, hpaso⟩ := bind_eq_ok.1 hpaso
  cases hpaso
  exact (mover_conserva hk hm h₁).repartido hk

/-- In every run of safe moves each carpincho that has been created and not freed is in
exactly one queue, and each safe move treats only the one that it selects. -/
theorem procesos_conservados (cfg : Config) {ms : List Movida} {k : Estado}
    (hcorrida : Reaches (pasoMovida cfg) (fun k m => k.movidaSegura m = true) (inicial cfg) ms k) :
    Partitions k.Vivo k.cola ∧
      ∀ m k', k.movidaSegura m = true → mover cfg m k = .ok k' → m.Correcta k k' := by
  have hk := corrida_repartida hcorrida
  refine ⟨hk.partitions, fun m k' hm h => ?_⟩
  exact (mover_conserva hk hm h).correcta hk

def pedidoConEspera : List Movida :=
  [.llegada 1, .admision, .despachoSjf 0 false, .llegada 2, .pedidoIo 0]

/-- The carpincho is suspended, and the end of its IO takes it out of the queues. -/
theorem finIo_pierde_suspendido :
    ¬ ∀ (cfg : Config) (ms : List Movida) (k : Estado),
      Reaches (pasoMovida cfg) (fun _ _ => True) (inicial cfg) ms k →
      Partitions k.Vivo k.cola ∧ ∀ m k', mover cfg m k = .ok k' → m.Correcta k k' := by
  intro h
  have hcorrida : (guardedRun (pasoMovida configUnaCpu) (fun _ _ => true)
      (pedidoConEspera ++ [.suspension]) (inicial configUnaCpu)).any (fun k =>
      k.colaIO.head? = some 1 ∧
      (k.processBlocked ++ k.processSuspendedBlocked).find? (k.tienePid 1) = some 0 ∧
      returns (mover configUnaCpu .finIo k) fun k' =>
        0 ∉ k'.processReady ∧ 0 ∉ k'.processSuspendedReady) = true := by
    decide +kernel
  obtain ⟨k, hk, hfin⟩ := (Option.any_eq_true _ _).1 hcorrida
  obtain ⟨hcola, hfind, hpaso⟩ := of_decide_eq_true hfin
  obtain ⟨k', hk', hfuera⟩ := exists_of_returns hpaso
  obtain ⟨hready, hsuspended⟩ := of_decide_eq_true hfuera
  have hllega := (reaches_of_guardedRun hk).mono fun _ _ _ => trivial
  obtain ⟨-, l, hl, hmem⟩ := ((h _ _ k hllega).2 _ k' hk').elegidos rfl 0 ⟨1, hcola, hfind⟩
  have hl' := (hmem l).2 rfl
  rcases hl with rfl | rfl
  · exact hready hl'
  · exact hsuspended hl'

/-- The same end of IO while the carpincho is in BLOCKED. -/
theorem procesos_conservados_finIo :
    ∃ k k', guardedRun (pasoMovida configUnaCpu) movidaSegura pedidoConEspera
      (inicial configUnaCpu) = some k ∧ mover configUnaCpu .finIo k = .ok k' ∧
      Partitions k.Vivo k.cola ∧ Movida.finIo.Correcta k k' ∧ k'.processReady = [0] := by
  have hcorrida : (guardedRun (pasoMovida configUnaCpu) movidaSegura pedidoConEspera
      (inicial configUnaCpu)).any (fun k => k.movidaSegura .finIo = true ∧
      returns (mover configUnaCpu .finIo k) fun k' => k'.processReady = [0]) = true := by
    decide +kernel
  obtain ⟨k, hk, hfin⟩ := (Option.any_eq_true _ _).1 hcorrida
  obtain ⟨hm, hpaso⟩ := of_decide_eq_true hfin
  obtain ⟨k', hk', hready⟩ := exists_of_returns hpaso
  obtain ⟨hpart, hcorrecta⟩ := procesos_conservados configUnaCpu (reaches_of_guardedRun hk)
  exact ⟨k, k', hk, hk', hpart, hcorrecta _ k' hm hk', of_decide_eq_true hready⟩

end Movidas

end Estado

end Carpinchos.Kernel
