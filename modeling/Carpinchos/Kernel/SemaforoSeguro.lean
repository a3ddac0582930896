import Carpinchos.Library.Runs
import Carpinchos.Kernel.Cambio

/-!
# Units of a semaphore

A semaphore created with `v` units has given out at most as many units as it was created
with and POSTs have added, as long as no POST moves a waiter and no unit is taken from
an empty semaphore. `sumarSem` adds a unit that `desbloquearProcesoPorSemaforo` hands to a
waiter without taking it back, and the test of `restarSem` may be out of date when the
value is lowered.
-/

namespace Carpinchos.Kernel

open Outcome Runs

/-- The WAITs on the semaphore that have been completed: those that took a unit and those
whose carpincho was moved out of a blocked list. -/
def completados (nombre : String) (d : ℕ) (historia : List Suceso) : ℕ :=
  historia.countP fun
    | .restado d' => d' = d
    | .desbloqueado nombre' _ => nombre' = nombre
    | _ => false

def posts (d : ℕ) (historia : List Suceso) : ℕ := historia.count (.sumado d)

def Evento.destruye (nombre : String) : Evento → Bool
  | .recibe _ (.semaforo sema) => sema.operacion = .destroy ∧ sema.nombreSem = nombre
  | _ => false

namespace Estado

/-- The step neither hands a unit to a waiter nor takes one from an empty semaphore. -/
def sinDobleCuenta (k : Estado) (nombre : String) (d : ℕ) : Evento → Bool
  | .cpu c =>
    match (k.cpusExec c).etapa with
    | .desbloqueando nombre' => ¬ (nombre' = nombre ∧ k.enEspera nombre = true)
    | .restandoSemaforo d' => d' = d → (k.semaforos d).all fun sem => 1 ≤ sem.valor
    | _ => true
  | _ => true

/-- The addresses in use have been given out. -/
structure Acotado (k : Estado) : Prop where
  lista : ∀ d ∈ k.semaforosKernel, d < k.proxima
  etapas : ∀ c n d, (k.cpusExec c).etapa = .reasignando n d → d < k.proxima

def Nombra (k : Estado) (nombre : String) (d : ℕ) : Prop :=
  ∃ sem, k.semaforos d = some sem ∧ sem.nombre = nombre

/-- The search for the name stops at the semaphore `d`. -/
def Encabeza (k : Estado) (nombre : String) (d : ℕ) : List ℕ → Prop
  | [] => False
  | e :: es => e = d ∨ (¬ k.Nombra nombre e ∧ k.Encabeza nombre d es)

section Acotado

variable {cfg : Config} {k k' : Estado} {e : Evento} {o : List Suceso}

theorem Acotado.of_ajeno (h : k.Acotado) (ha : k.Ajeno k') : k'.Acotado where
  lista d hd := (h.lista d (by rwa [ha.lista] at hd)).trans_le ha.proxima
  etapas c n d hc := (h.etapas c n d (ha.reasignando c n d hc)).trans_le ha.proxima

theorem Acotado.agregarSemaforo (h : k.Acotado) (nombre : String) (valor : ℤ) :
    (k.agregarSemaforo nombre valor).Acotado where
  lista d hd := by
    rcases List.mem_append.1 hd with hd | hd
    · exact (h.lista d hd).trans (Nat.lt_succ_self _)
    · cases List.mem_singleton.1 hd
      exact Nat.lt_succ_self _
  etapas c n d hc := (h.etapas c n d hc).trans (Nat.lt_succ_self _)

theorem Acotado.quitar (h : k.Acotado) {c d position : ℕ} {nombre : String}
    (hlista : k.semaforosKernel[position]? = some d) :
    Acotado ({ k with semaforosKernel := k.semaforosKernel.eraseIdx position }.conEtapa c
      (.reasignando nombre d)) := by
  refine ⟨fun d' hd' => h.lista d' (List.mem_of_mem_eraseIdx hd'), fun c' n d' hc' => ?_⟩
  simp only [conEtapa, conCpu, Function.update_apply] at hc'
  split at hc'
  · cases hc'
    exact h.lista _ (List.mem_of_getElem? hlista)
  · exact h.etapas c' n d' hc'

theorem Acotado.cambio (h : k.Acotado) (hc : k.Cambio e o k') : k'.Acotado := by
  cases hc with
  | ajeno ha => exact h.of_ajeno ha
  | creado _ ha => exact (h.agregarSemaforo _ _).of_ajeno ha
  | restado _ _ ha =>
    refine Acotado.of_ajeno ?_ ha
    exact ⟨h.lista, h.etapas⟩
  | sumado _ _ ha =>
    refine Acotado.of_ajeno ?_ ha
    exact ⟨h.lista, h.etapas⟩
  | desbloqueado _ _ ha => exact h.of_ajeno ha
  | quitado _ hlista _ _ ha => exact (h.quitar hlista).of_ajeno ha
  | liberado _ ha =>
    refine Acotado.of_ajeno ?_ ha
    exact ⟨h.lista, h.etapas⟩

theorem acotado_inicial (cfg : Config) : (inicial cfg).Acotado where
  lista d hd := by cases hd
  etapas c n d hc := by cases hc

end Acotado

section Encabeza

variable {k k' : Estado} {nombre : String} {d : ℕ} {es : List ℕ}

theorem buscarSem_none {i : ℕ} (h : k.buscarSem nombre es i = .ok none) :
    ∀ e ∈ es, ¬ k.Nombra nombre e := by
  induction es generalizing i with
  | nil => intro e he; cases he
  | cons a es ih =>
    obtain ⟨sem, hsem, h⟩ := bind_eq_ok.1 h
    split at h
    · cases h
    · next hne =>
      intro e he
      rcases List.mem_cons.1 he with rfl | he
      · rintro ⟨sem', hsem', hnombre⟩
        rw [leerSemaforo_eq_ok, hsem'] at hsem
        cases hsem
        exact hne hnombre
      · exact ih h e he

theorem encabeza_agregado (h : ∀ e ∈ es, ¬ k.Nombra nombre e) :
    k.Encabeza nombre d (es ++ [d]) := by
  induction es with
  | nil => exact Or.inl rfl
  | cons e es ih =>
    exact Or.inr ⟨h e (by simp), ih fun e' he' => h e' (List.mem_cons_of_mem _ he')⟩

theorem Encabeza.append (h : k.Encabeza nombre d es) (es' : List ℕ) :
    k.Encabeza nombre d (es ++ es') := by
  induction es with
  | nil => exact absurd h id
  | cons e es ih => exact h.imp id fun h => ⟨h.1, ih h.2⟩

theorem Encabeza.mono (h : k.Encabeza nombre d es)
    (hn : ∀ e ∈ es, k'.Nombra nombre e → k.Nombra nombre e) : k'.Encabeza nombre d es := by
  induction es with
  | nil => exact absurd h id
  | cons e es ih =>
    refine h.imp id fun h => ⟨fun hne => h.1 (hn e (by simp) hne), ?_⟩
    exact ih h.2 fun e' he' => hn e' (List.mem_cons_of_mem _ he')

theorem Encabeza.eraseIdx (h : k.Encabeza nombre d es) {i d' : ℕ}
    (hi : es[i]? = some d') (hd' : d' ≠ d) :
    k.Encabeza nombre d (es.eraseIdx i) := by
  induction es generalizing i with
  | nil => exact absurd h id
  | cons e es ih =>
    cases i with
    | zero =>
      cases hi
      rcases h with h | h
      · exact absurd h hd'
      · exact h.2
    | succ i => exact h.imp id fun h => ⟨h.1, ih h.2 hi⟩

theorem encabeza_agregarSemaforo (ha : k.Acotado) (h : k.Encabeza nombre d k.semaforosKernel)
    (nombre' : String) (valor : ℤ) :
    (k.agregarSemaforo nombre' valor).Encabeza nombre d k.semaforosKernel := by
  refine h.mono fun e he => ?_
  rintro ⟨sem, hsem, hnombre⟩
  refine ⟨sem, ?_, hnombre⟩
  simpa [agregarSemaforo, Function.update_of_ne (ha.lista e he).ne] using hsem

theorem Encabeza.buscarSem (h : k.Encabeza nombre d es) {sem : SemKernel}
    (hd : k.semaforos d = some sem) (hnombre : sem.nombre = nombre) {i position : ℕ}
    (hb : k.buscarSem nombre es i = .ok (some position)) :
    ∃ j, position = i + j ∧ es[j]? = some d := by
  induction es generalizing i with
  | nil => exact absurd h id
  | cons e es ih =>
    obtain ⟨sem', hsem', hb⟩ := bind_eq_ok.1 hb
    rw [leerSemaforo_eq_ok] at hsem'
    rcases h with rfl | ⟨hne, h⟩
    · rw [hd] at hsem'
      cases hsem'
      rw [if_pos hnombre] at hb
      cases hb
      exact ⟨0, rfl, rfl⟩
    · split at hb
      · next heq => exact absurd ⟨sem', hsem', heq⟩ hne
      · obtain ⟨j, hj, hes⟩ := ih h hb
        exact ⟨j + 1, by omega, hes⟩

end Encabeza

/-- The semaphore `d` of this name is in use, and the units it has given out are
accounted for by its value, its first value and the POSTs. -/
structure Vigente (nombre : String) (d : ℕ) (v : ℤ) (s : Estado × List Suceso) : Prop where
  acotado : s.1.Acotado
  conocido : d < s.1.proxima
  enUso : ∀ c n, (s.1.cpusExec c).etapa ≠ .reasignando n d
  encabeza : s.1.Encabeza nombre d s.1.semaforosKernel
  cuenta : ∃ valor, s.1.semaforos d = some ⟨valor, nombre⟩ ∧ 0 ≤ valor ∧
    valor + completados nombre d s.2 = v + posts d s.2

section Vigente

variable {cfg : Config} {k k' : Estado} {e : Evento} {o : List Suceso} {nombre : String}
  {d : ℕ} {v : ℤ} {s s' : Estado × List Suceso}

theorem completados_append (historia o : List Suceso) :
    completados nombre d (historia ++ o) = completados nombre d historia + completados nombre d o :=
  List.countP_append

theorem posts_append (historia o : List Suceso) :
    posts d (historia ++ o) = posts d historia + posts d o := List.count_append

theorem completados_cons_restado (d' : ℕ) (o : List Suceso) :
    completados nombre d (.restado d' :: o) =
      completados nombre d o + if d' = d then 1 else 0 := by
  simp [completados, List.countP_cons]

theorem posts_cons_restado (d' : ℕ) (o : List Suceso) :
    posts d (.restado d' :: o) = posts d o := by
  simp [posts]

theorem completados_ajeno (ho : o.all Suceso.ajeno) : completados nombre d o = 0 := by
  refine List.countP_eq_zero.2 fun s hs => ?_
  have hajeno := List.all_eq_true.1 ho s hs
  cases s <;> simp_all [Suceso.ajeno]

theorem posts_ajeno (ho : o.all Suceso.ajeno) : posts d o = 0 := by
  refine List.count_eq_zero.2 fun hs => ?_
  have hajeno := List.all_eq_true.1 ho _ hs
  simp [Suceso.ajeno] at hajeno

theorem Vigente.of_ajeno {historia : List Suceso} (h : Vigente nombre d v (k, historia))
    (ha : k.Ajeno k') : Vigente nombre d v (k', historia) where
  acotado := h.acotado.of_ajeno ha
  conocido := lt_of_lt_of_le h.conocido ha.proxima
  enUso c n hc := h.enUso c n (ha.reasignando c n d hc)
  encabeza := by
    show k'.Encabeza nombre d k'.semaforosKernel
    rw [ha.lista]
    refine Encabeza.mono h.encabeza fun e _ => ?_
    rintro ⟨sem, hsem, hnombre⟩
    exact ⟨sem, by rwa [ha.semaforos] at hsem, hnombre⟩
  cuenta := by
    obtain ⟨valor, hvalor, hresto⟩ := h.cuenta
    exact ⟨valor, by rw [ha.semaforos, hvalor], hresto⟩

theorem Vigente.append {historia : List Suceso} (h : Vigente nombre d v (k, historia))
    (ho : o.all Suceso.ajeno) : Vigente nombre d v (k, historia ++ o) where
  acotado := h.acotado
  conocido := h.conocido
  enUso := h.enUso
  encabeza := h.encabeza
  cuenta := by
    obtain ⟨valor, hvalor, hcero, hcuenta⟩ := h.cuenta
    refine ⟨valor, hvalor, hcero, ?_⟩
    rw [completados_append, posts_append, completados_ajeno ho, posts_ajeno ho]
    exact hcuenta

theorem Vigente.conSemaforo {historia : List Suceso} (h : Vigente nombre d v (k, historia))
    {d' : ℕ} {sem : SemKernel} {valor' : ℤ} (hsem : k.semaforos d' = some sem)
    (hcero : d' = d → 0 ≤ valor')
    (hcuenta : valor' + completados nombre d' o = sem.valor + posts d' o)
    (hotros : d' ≠ d → completados nombre d o = posts d o) :
    Vigente nombre d v (k.conSemaforo d' { sem with valor := valor' }, historia ++ o) where
  acotado := ⟨h.acotado.lista, h.acotado.etapas⟩
  conocido := h.conocido
  enUso := h.enUso
  encabeza := by
    refine Encabeza.mono h.encabeza fun e _ => ?_
    rintro ⟨sem', hsem', hnombre⟩
    simp only [Estado.conSemaforo, Function.update_apply] at hsem'
    split at hsem'
    · next heq =>
      cases hsem'
      exact ⟨sem, by rw [heq, hsem], hnombre⟩
    · exact ⟨sem', hsem', hnombre⟩
  cuenta := by
    obtain ⟨valor, hvalor, hno, hsuma⟩ := h.cuenta
    rw [completados_append, posts_append]
    rcases eq_or_ne d' d with rfl | hne
    · obtain rfl : sem = ⟨valor, nombre⟩ := Option.some.inj (hsem.symm.trans hvalor)
      refine ⟨valor', Function.update_self _ _ _, hcero rfl, ?_⟩
      push_cast
      dsimp only at hcuenta hsuma
      omega
    · refine ⟨valor, (Function.update_of_ne hne.symm _ _).trans hvalor, hno, ?_⟩
      rw [hotros hne]
      push_cast
      dsimp only at hsuma
      omega

/-- One step keeps the account, unless it is one of the two that count a unit twice. -/
theorem Vigente.cambio {historia : List Suceso} (h : Vigente nombre d v (k, historia))
    (hc : k.Cambio e o k') (hseguro : k.sinDobleCuenta nombre d e = true)
    (hno : e.destruye nombre = false) : Vigente nombre d v (k', historia ++ o) := by
  cases hc with
  | ajeno ha ho => exact (h.of_ajeno ha).append ho
  | @creado c nombre' valor _ _ _ ha ho =>
    have hconocido : d < k.proxima := h.conocido
    refine (Vigente.of_ajeno (k := k.agregarSemaforo nombre' valor) ?_ ha).append ho
    refine ⟨h.acotado.agregarSemaforo _ _, hconocido.trans (Nat.lt_succ_self _), h.enUso, ?_, ?_⟩
    · exact (encabeza_agregarSemaforo h.acotado h.encabeza nombre' valor).append _
    · obtain ⟨valor, hvalor, hresto⟩ := h.cuenta
      exact ⟨valor, (Function.update_of_ne hconocido.ne _ _).trans hvalor, hresto⟩
  | @restado c d' sem o _ hetapa hsem ha ho =>
    refine (Vigente.conSemaforo h hsem (fun heq => ?_) ?_ fun hne => ?_).of_ajeno ha
    · rw [sinDobleCuenta, hetapa] at hseguro
      subst heq
      have huno : 1 ≤ sem.valor := by simpa [show k.semaforos d' = some sem from hsem] using hseguro
      omega
    · rw [completados_cons_restado, posts_cons_restado, if_pos rfl, completados_ajeno ho,
        posts_ajeno ho]
      push_cast
      ring
    · rw [completados_cons_restado, posts_cons_restado, if_neg hne, completados_ajeno ho,
        posts_ajeno ho]
  | @sumado c d' sema sem _ _ hsem ha =>
    refine (Vigente.conSemaforo h hsem (fun heq => ?_) ?_ fun hne => ?_).of_ajeno ha
    · obtain ⟨valor, hvalor, hcero, -⟩ := h.cuenta
      rw [heq] at hsem
      obtain rfl : sem = ⟨valor, nombre⟩ := Option.some.inj (hsem.symm.trans hvalor)
      exact hcero.trans (Int.le_add_one le_rfl)
    · simp [completados, posts]
    · simp [completados, posts, hne]
  | @desbloqueado c p nombre' o _ hetapa hespera ha ho =>
    rw [sinDobleCuenta, hetapa] at hseguro
    have hne : nombre' ≠ nombre := by
      rintro rfl
      simp [hespera] at hseguro
    have hcuenta : ∀ historia' : List Suceso, completados nombre d (historia' ++
        .desbloqueado nombre' p :: o) = completados nombre d (historia' ++ o) ∧
        posts d (historia' ++ .desbloqueado nombre' p :: o) = posts d (historia' ++ o) := by
      intro historia'
      simp [completados, posts, hne]
    have hfin := (h.of_ajeno ha).append ho
    refine ⟨hfin.acotado, hfin.conocido, hfin.enUso, hfin.encabeza, ?_⟩
    dsimp only
    rw [(hcuenta historia).1, (hcuenta historia).2]
    exact hfin.cuenta
  | @quitado c d' position sema sem _ hop hlista hsem hnombre ha =>
    have hne : sem.nombre ≠ nombre := by
      rw [hnombre]
      rintro rfl
      simp [Evento.destruye, hop] at hno
    have hne' : d' ≠ d := by
      rintro rfl
      obtain ⟨valor, hvalor, -⟩ := h.cuenta
      cases Option.some.inj (hsem.symm.trans hvalor)
      exact hne rfl
    rw [List.append_nil]
    refine Vigente.of_ajeno
      ⟨h.acotado.quitar hlista, h.conocido, fun c' n hc' => ?_, ?_, h.cuenta⟩ ha
    · simp only [Function.update_apply] at hc'
      split at hc'
      · cases hc'
        exact hne' rfl
      · exact h.enUso c' n hc'
    · exact (Encabeza.eraseIdx h.encabeza hlista hne').mono fun e _ hn => hn
  | @liberado c d' nombre' _ _ hetapa ha ho =>
    have hne : d' ≠ d := by
      rintro rfl
      exact h.enUso c nombre' hetapa
    refine Vigente.append (Vigente.of_ajeno ?_ ha) ho
    refine ⟨⟨h.acotado.lista, h.acotado.etapas⟩, h.conocido, h.enUso, ?_, ?_⟩
    · refine Encabeza.mono h.encabeza fun e _ => ?_
      rintro ⟨sem, hsem, hnombre⟩
      simp only [Function.update_apply] at hsem
      split at hsem
      · cases hsem
      · exact ⟨sem, hsem, hnombre⟩
    · obtain ⟨valor, hvalor, hresto⟩ := h.cuenta
      exact ⟨valor, (Function.update_of_ne hne.symm _ _).trans hvalor, hresto⟩

theorem vigente_agregarSemaforo (h : k.Acotado) (hnuevo : k.verificarExisteSem nombre = .ok none)
    (hv : 0 ≤ v) : Vigente nombre k.proxima v (k.agregarSemaforo nombre v, []) where
  acotado := h.agregarSemaforo nombre v
  conocido := Nat.lt_succ_self _
  enUso c n hc := lt_irrefl _ (h.etapas c n _ hc)
  encabeza := by
    refine encabeza_agregado fun e he => ?_
    rintro ⟨sem, hsem, hnombre⟩
    refine buscarSem_none hnuevo _ he ⟨sem, ?_, hnombre⟩
    simpa [agregarSemaforo, Function.update_of_ne (h.lista e he).ne] using hsem
  cuenta := ⟨v, Function.update_self _ _ _, hv, rfl⟩

end Vigente

/-- A step that neither destroys the semaphore nor counts one of its units twice. -/
def permitido (nombre : String) (d : ℕ) (s : Estado × List Suceso) (e : Evento) : Bool :=
  !e.destruye nombre && s.1.sinDobleCuenta nombre d e

section Corridas

def configUnaCpu : Config where
  gradoMultiprogramacion := 2
  gradoMultiprocesamiento := 1
  algoritmoPlanificacion := .sjf

def despachar (pid : ℤ) : List Evento :=
  [.llegada pid, .largoPlazo, .largoPlazo, .largoPlazo, .cortoPlazo 0, .cortoPlazo 0,
    .cortoPlazo 0, .cpu 0, .cpu 0]

def pedirSemaforo (v : ℤ) : List Evento :=
  despachar 1 ++ [.recibe 0 (.semaforo ⟨.init, "S", v⟩)]

def pedir (operacion : Operation) : List Evento :=
  [.cpu 0, .recibe 0 (.semaforo ⟨operacion, "S", 0⟩), .cpu 0]

def trasCrear (v : ℤ) (guarda : Estado × List Suceso → Evento → Bool) (eventos : List Evento) :
    Option (Estado × (Estado × List Suceso)) := do
  let k ← guardedRun (paso configUnaCpu) (fun _ _ => true) (pedirSemaforo v) (inicial configUnaCpu)
  guard ((k.cpusExec 0).etapa = .creandoSemaforo "S" v)
  guard ((k.verificarExisteSem "S").toOption = some none)
  let r ← (paso configUnaCpu (.cpu 0) k).toOption
  let fin ← guardedRun (recorded (paso configUnaCpu)) guarda eventos (r.2, [])
  return (k, fin)

theorem trasCrear_eq_some {v : ℤ} {guarda : Estado × List Suceso → Evento → Bool}
    {eventos : List Evento} {k : Estado} {fin : Estado × List Suceso}
    (h : trasCrear v guarda eventos = some (k, fin)) :
    ∃ k' o, Reaches (paso configUnaCpu) (fun _ _ => True) (inicial configUnaCpu)
      (pedirSemaforo v) k ∧ (k.cpusExec 0).etapa = .creandoSemaforo "S" v ∧
      k.verificarExisteSem "S" = .ok none ∧ paso configUnaCpu (.cpu 0) k = .ok (o, k') ∧
      Reaches (recorded (paso configUnaCpu)) (fun s e => guarda s e = true) (k', []) eventos
        fin := by
  simp only [trasCrear, Option.bind_eq_bind, Option.bind_eq_some_iff, Option.guard_eq_some',
    Option.pure_def, Option.some.injEq] at h
  obtain ⟨k₁, hprevios, -, hetapa, -, hnuevo, ⟨o, k'⟩, hcrear, fin', hcorrida, heq⟩ := h
  cases heq
  refine ⟨k', o, (reaches_of_guardedRun hprevios).mono fun _ _ _ => trivial, hetapa, ?_, ?_,
    reaches_of_guardedRun hcorrida⟩
  · exact toOption_eq_some.1 hnuevo
  · exact toOption_eq_some.1 hcrear

end Corridas

end Estado

end Carpinchos.Kernel
