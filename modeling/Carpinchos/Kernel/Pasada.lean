import Mathlib.Data.List.TakeWhile
import Carpinchos.Kernel.Ciclos

/-!
# When a pass of the detector is right

A turn drops what its nested call returns, so the turn that goes round a cycle terminates nobody.
A pass is right without a cycle when its turns have little to follow, and with one when another
carpincho waits for the one that an earlier turn left in the list.
-/

namespace Carpinchos.Kernel

open Outcome

namespace Detector

section Definiciones

/-- Its semaphore is looked for and not found, so that nobody is followed. -/
def Suelto (s : Detector) (p : Bloqueado) : Prop :=
  s.conseguirSemaforo p.semaforoRequerido = .ok none

/-- What the three lists have to be like. Those that the pass does not look at, the last of the
blocked carpinchos and the last semaphore, may still be part of a cycle. -/
inductive Reconocible (s : Detector) : Prop
  | sinSemaforos (hciclo : ¬ ∃ pid, s.EnCiclo pid) (h : s.semaforosKernel.dropLast = []) :
      Reconocible s
  | unoEspera (pid : ℤ) (hciclo : ¬ ∃ pid, s.EnCiclo pid) (hpids : s.visibles.Nodup)
      (hmenos : -1 ∉ s.visibles)
      (h : ∀ p ∈ s.processBlocked.dropLast, s.Suelto p ∨
        p.pid = pid ∧ ∃ dueno, s.Requiere pid dueno ∧ dueno ∉ s.visibles) : Reconocible s
  | dosEsperan {antes medio despues : List Bloqueado} {p q : Bloqueado} (hciclo : s.EnCiclo p.pid)
      (hpids : s.visibles.Nodup) (hmenos : -1 ∉ s.visibles) (hcero : p.pid ≠ 0)
      (hlista : s.processBlocked.dropLast = antes ++ p :: (medio ++ q :: despues))
      (hp : ∃ dueno, s.Requiere p.pid dueno ∧ (dueno = q.pid ∨ dueno ∉ s.visibles))
      (hq : s.Requiere q.pid p.pid)
      (h : ∀ x ∈ antes ++ medio ++ despues.tail, s.Suelto x) : Reconocible s

end Definiciones

section Avance

variable {s t : Detector} {p q : Bloqueado} {i : ℕ} {ps antes resto : List Bloqueado} {dueno : ℤ}

theorem mem_visibles : q ∈ s.processBlocked.dropLast → q.pid ∈ s.visibles :=
  fun h => List.mem_map_of_mem h

theorem conseguirPcb_eq_none {pid : ℤ} : s.conseguirPcb pid = none ↔ pid ∉ s.visibles := by
  rw [conseguirPcb, List.find?_eq_none, visibles, List.mem_map]
  simp

theorem conseguirPcb_de_mem (hpids : s.visibles.Nodup) (hp : p ∈ s.processBlocked.dropLast) :
    s.conseguirPcb p.pid = some p := by
  cases hpcb : s.conseguirPcb p.pid with
  | none => exact absurd (mem_visibles hp) (conseguirPcb_eq_none.1 hpcb)
  | some q =>
    have hq : q ∈ s.processBlocked.dropLast := List.mem_of_find?_eq_some hpcb
    rw [List.inj_on_of_nodup_map hpids hq hp (conseguirPcb_eq_some hpcb).1]

theorem requiere_de_mem (hpids : s.visibles.Nodup) (hp : p ∈ s.processBlocked.dropLast) :
    s.Requiere p.pid dueno ↔
      ∃ sem, s.conseguirSemaforo p.semaforoRequerido = .ok (some sem) ∧ sem.pid = dueno := by
  have hpcb := conseguirPcb_de_mem hpids hp
  constructor
  · rintro ⟨unPcb, sem, hunPcb, hsem, hdueno⟩
    cases hpcb.symm.trans hunPcb
    exact ⟨sem, hsem, hdueno⟩
  · rintro ⟨sem, hsem, hdueno⟩
    exact ⟨p, sem, hpcb, hsem, hdueno⟩

theorem conseguirSemaforo_congr (h : t.semaforosKernel = s.semaforosKernel)
    (nombre : Option String) : t.conseguirSemaforo nombre = s.conseguirSemaforo nombre := by
  unfold conseguirSemaforo
  rw [h]

/-- Between two turns only names have been taken away. -/
structure Anula (s t : Detector) : Prop where
  visibles : t.visibles = s.visibles
  semaforos : t.semaforosKernel = s.semaforosKernel
  lista : t.procesosEnDeadlock = s.procesosEnDeadlock

theorem Anula.conseguirSemaforo (h : s.Anula t) (nombre : Option String) :
    t.conseguirSemaforo nombre = s.conseguirSemaforo nombre :=
  conseguirSemaforo_congr h.semaforos nombre

theorem Anula.requiere (h : s.Anula t) (hpids : s.visibles.Nodup)
    (hp : p ∈ s.processBlocked.dropLast) (hp' : p ∈ t.processBlocked.dropLast) :
    t.Requiere p.pid dueno ↔ s.Requiere p.pid dueno := by
  rw [requiere_de_mem hpids hp, requiere_de_mem (by rwa [h.visibles]) hp', h.conseguirSemaforo]

theorem anula_reasignarProceso (s : Detector) (unPID : ℤ) : s.Anula (s.reasignarProceso unPID) :=
  ⟨visibles_reasignarProceso s unPID, rfl, rfl⟩

theorem drop_reasignarProceso (hpids : s.visibles.Nodup)
    (hlista : s.processBlocked.dropLast.drop i = p :: ps) :
    (s.reasignarProceso p.pid).processBlocked.dropLast.drop (i + 1) = ps := by
  have hnodup : ((p :: ps).map Bloqueado.pid).Nodup := by
    rw [← hlista]
    exact hpids.sublist ((List.drop_sublist _ _).map _)
  rw [List.map_cons, List.nodup_cons] at hnodup
  have hresto : s.processBlocked.dropLast.drop (i + 1) = ps := by
    rw [← List.tail_drop, hlista, List.tail_cons]
  unfold reasignarProceso
  dsimp only
  rw [← List.map_dropLast, ← List.map_drop, hresto]
  refine (List.map_congr_left fun q hq => ?_).trans (List.map_id ps)
  have hno : q.pid ≠ p.pid := by
    intro heq
    rw [← heq] at hnodup
    exact hnodup.1 (List.mem_map_of_mem hq)
  exact if_neg hno

theorem comprobarDeadlock_suelto {pid : ℤ} (hpcb : s.conseguirPcb pid = some p) (h : s.Suelto p)
    (llamadas : ℕ) :
    comprobarDeadlock (llamadas + 1) pid s = .ok (0, s.reasignarProceso pid) := by
  obtain ⟨rfl, -⟩ := conseguirPcb_eq_some hpcb
  rw [comprobarDeadlock, hpcb]
  dsimp only
  rw [h, ok_bind]

theorem recorrer_de_turno {terminados : List Bloqueado} (hi : i < s.processBlocked.length - 1)
    (h : turno i s = .ok (terminados, t)) (turnos : ℕ) :
    recorrer (turnos + 1) i s =
      (recorrer turnos (i + 1) t).map fun r => (terminados ++ r.1, r.2) := by
  rw [recorrer, if_pos hi, h, ok_bind]
  dsimp only
  cases recorrer turnos (i + 1) t <;> rfl

theorem lt_of_drop (hlista : s.processBlocked.dropLast.drop i = p :: ps) :
    i < s.processBlocked.length - 1 ∧ s.processBlocked[i]? = some p := by
  rw [← getElem?_dropLast_eq_some, ← List.head?_drop, hlista, List.head?_cons]

theorem mem_of_drop (hlista : s.processBlocked.dropLast.drop i = ps) (hp : p ∈ ps) :
    p ∈ s.processBlocked.dropLast := by
  rw [← hlista] at hp
  exact List.mem_of_mem_drop hp

theorem turno_suelto (hp : s.processBlocked[i]? = some p)
    (hpcb : s.conseguirPcb p.pid = some q) (h : s.Suelto q) :
    turno i s = .ok ([], s.reasignarProceso p.pid) := by
  rw [turno, hp]
  dsimp only
  rw [comprobarDeadlock_suelto hpcb h, ok_bind]
  rfl

/-- The turns of carpinchos that follow nobody only take names away. -/
theorem recorrer_sueltos (hpids : s.visibles.Nodup)
    (hlista : s.processBlocked.dropLast.drop i = antes ++ resto)
    (hsueltos : ∀ p ∈ antes, s.Suelto p) :
    ∃ t, s.Anula t ∧ t.processBlocked.dropLast.drop (i + antes.length) = resto ∧
      ∀ turnos, recorrer (antes.length + turnos) i s = recorrer turnos (i + antes.length) t := by
  induction antes generalizing s i with
  | nil =>
    refine ⟨s, ⟨rfl, rfl, rfl⟩, hlista, fun turnos => ?_⟩
    rw [List.length_nil, Nat.zero_add]
    rfl
  | cons p antes ih =>
    have hpcb := conseguirPcb_de_mem hpids (mem_of_drop hlista List.mem_cons_self)
    have hturno := turno_suelto (lt_of_drop hlista).2 hpcb (hsueltos p List.mem_cons_self)
    have hanula := anula_reasignarProceso s p.pid
    obtain ⟨t, ht, hresto, hturnos⟩ := ih (i := i + 1) (by rwa [hanula.visibles])
      (drop_reasignarProceso hpids hlista) fun q hq => by
        rw [Suelto, hanula.conseguirSemaforo]
        exact hsueltos q (List.mem_cons_of_mem _ hq)
    refine ⟨t, ⟨ht.visibles.trans hanula.visibles, ht.semaforos.trans hanula.semaforos,
      ht.lista.trans hanula.lista⟩, ?_, fun turnos => ?_⟩
    · rw [List.length_cons, ← hresto, Nat.add_assoc, Nat.add_comm 1]
    · rw [List.length_cons, Nat.add_right_comm, recorrer_de_turno (lt_of_drop hlista).1 hturno,
        hturnos, Nat.add_assoc, Nat.add_comm 1]
      cases recorrer turnos (i + (antes.length + 1)) t <;> rfl

end Avance

section Espera

variable {s t : Detector} {p q x : Bloqueado} {i : ℕ} {ps : List Bloqueado} {dueno unPID : ℤ}

theorem terminarProceso_nadie (h : unPID ∉ s.visibles) : s.terminarProceso unPID = ([], s) := by
  unfold terminarProceso
  dsimp only
  rw [if_pos (quitarTerminados_eq_nil.2 h)]

/-- With an empty list a turn follows one owner, if the owner is not blocked or waits for the one
that was followed, and leaves the carpincho in the list. -/
theorem turno_primero (hmenos : -1 ∉ s.visibles) (hlargo : s.processBlocked[i]? = some p)
    (hlista : s.procesosEnDeadlock = []) (hp : s.Requiere p.pid dueno)
    (hdueno : dueno ∉ s.visibles ∨ dueno ≠ p.pid ∧ s.Requiere dueno p.pid) :
    turno i s = .ok ([], s.conVisitado p.pid) := by
  have hpid : p.pid ∈ s.visibles := by
    obtain ⟨unPcb, unSemaforo, hpcb, -⟩ := hp
    exact (conseguirPcb_eq_some hpcb).2
  have hajeno : dueno ≠ p.pid := hdueno.elim (fun hno heq => hno (heq ▸ hpid)) And.left
  have hsigue : s.Sigue p.pid dueno := ⟨hp, hajeno, by rw [hlista]; exact List.not_mem_nil⟩
  obtain ⟨llamadas, hllamadas⟩ : ∃ llamadas, s.processBlocked.length = llamadas + 1 := by
    have hlt := (List.getElem?_eq_some_iff.1 hlargo).1
    exact ⟨s.processBlocked.length - 1, by omega⟩
  have hnueva : (s.conVisitado p.pid).procesosEnDeadlock = [p.pid] := by
    rw [conVisitado, hlista, List.nil_append]
  have hanidada : ∃ r, comprobarDeadlock (llamadas + 1) dueno (s.conVisitado p.pid) =
      .ok (r, s.conVisitado p.pid) := by
    rcases hdueno with hno | ⟨-, hvuelta⟩
    · have hpcb : (s.conVisitado p.pid).conseguirPcb dueno = none := conseguirPcb_eq_none.2 hno
      refine ⟨0, ?_⟩
      rw [comprobarDeadlock, hpcb]
      dsimp only
      rw [hnueva]
      rfl
    · have hvuelta' : (s.conVisitado p.pid).Requiere dueno p.pid := hvuelta
      refine ⟨mayor ((s.conVisitado p.pid).desde p.pid), ?_⟩
      have hmismo : (s.conVisitado p.pid).desde p.pid =
          (s.conVisitado p.pid).procesosEnDeadlock := by
        rw [desde, hnueva, List.dropWhile_cons_of_neg (by simp)]
      rw [comprobarDeadlock_requiere hvuelta', if_neg hajeno, hmismo, hnueva,
        if_pos (List.mem_singleton_self _), ← hnueva]
  obtain ⟨r, hr⟩ := hanidada
  rw [turno, hlargo]
  dsimp only
  rw [hllamadas, comprobarDeadlock_sigue hsigue, hr]
  exact congrArg Except.ok (terminarProceso_nadie hmenos)

theorem quitarTerminados_nadie (h : unPID ∉ ps.dropLast.map Bloqueado.pid) :
    quitarTerminados unPID ps = (ps, []) := by
  induction ps using quitarTerminados.induct unPID with
  | case1 => rfl
  | case2 p => rfl
  | case3 p q ps hp ih => simp [hp] at h
  | case4 p q ps hp ih =>
    rw [List.dropLast_cons_cons, List.map_cons, List.mem_cons, not_or] at h
    rw [quitarTerminados, if_neg hp, ih h.2]

theorem quitarTerminados_unico {antes : List Bloqueado} (hps : ps ≠ [])
    (h : ((antes ++ x :: ps).dropLast.map Bloqueado.pid).Nodup) :
    quitarTerminados x.pid (antes ++ x :: ps) = (antes ++ ps, [x]) := by
  induction antes with
  | nil =>
    obtain ⟨y, ps, rfl⟩ := List.exists_cons_of_ne_nil hps
    rw [List.nil_append, List.dropLast_cons_cons, List.map_cons, List.nodup_cons] at h
    have hresto : x.pid ∉ ps.dropLast.map Bloqueado.pid := by
      cases ps with
      | nil => exact List.not_mem_nil
      | cons z ps => exact fun hmem => h.1 (List.mem_cons_of_mem _ hmem)
    rw [List.nil_append, quitarTerminados, if_pos rfl, quitarTerminados_nadie hresto]
    rfl
  | cons y antes ih =>
    have hno : antes ++ x :: ps ≠ [] := List.append_ne_nil_of_right_ne_nil _ (List.cons_ne_nil _ _)
    rw [List.cons_append, List.dropLast_cons_of_ne_nil hno, List.map_cons, List.nodup_cons] at h
    have hx : x ∈ (antes ++ x :: ps).dropLast := by
      rw [List.dropLast_append_of_ne_nil (List.cons_ne_nil _ _), List.dropLast_cons_of_ne_nil hps]
      exact List.mem_append_right _ List.mem_cons_self
    have hy : y.pid ≠ x.pid := by
      intro heq
      rw [heq] at h
      exact h.1 (List.mem_map_of_mem hx)
    have hresto := ih h.2
    obtain ⟨z, zs, hz⟩ := List.exists_cons_of_ne_nil hno
    rw [hz] at hresto
    rw [List.cons_append, hz, quitarTerminados, if_neg hy, hresto]
    rfl

theorem suelto_sacarRecursos : (s.sacarRecursos unPID).Suelto p ↔ s.Suelto p := by
  unfold Suelto conseguirSemaforo sacarRecursos
  dsimp only
  rw [← List.map_dropLast]
  cases p.semaforoRequerido with
  | none => simp only [List.map_eq_nil_iff]
  | some nombre =>
    have hnombre : ∀ unSem : Recurso, (if unSem.pid = unPID then { unSem with pid := -1 }
        else unSem).nombreSem = unSem.nombreSem := by
      intro unSem
      split <;> rfl
    simp only [List.find?_map, Function.comp_def, hnombre, Except.ok.injEq, Option.map_eq_none_iff]

theorem terminarProceso_unico {previos : List Bloqueado} (hpids : s.visibles.Nodup)
    (hlista : s.processBlocked = previos ++ x :: ps) (hps : ps ≠ []) :
    s.terminarProceso x.pid =
      ([x], { s.sacarRecursos x.pid with processBlocked := previos ++ ps }) := by
  rw [visibles, hlista] at hpids
  unfold terminarProceso
  dsimp only
  rw [hlista, quitarTerminados_unico hps hpids]
  exact if_neg (List.cons_ne_nil _ _)

theorem turno_segundo {previos medio despues : List Bloqueado} (hpids : s.visibles.Nodup)
    (hlista : s.processBlocked.dropLast = previos ++ x :: (medio ++ q :: despues))
    (hi : previos.length + 1 + medio.length = i) (hvisto : s.procesosEnDeadlock = [x.pid])
    (hcero : x.pid ≠ 0) (hajeno : x.pid ≠ q.pid) (hq : s.Requiere q.pid x.pid) :
    ∃ t, turno i s = .ok ([x], t) ∧ t.visibles.Nodup ∧
      t.processBlocked.dropLast.drop (i + 1) = despues.tail ∧
      ∀ p, t.Suelto p ↔ s.Suelto p := by
  have hllena : s.processBlocked ≠ [] := by
    intro hvacia
    rw [hvacia] at hlista
    simp at hlista
  have hdrop : s.processBlocked.dropLast.drop i = q :: despues := by
    have hpartes : previos ++ x :: (medio ++ q :: despues) =
        (previos ++ x :: medio) ++ q :: despues := by simp
    rw [hlista, hpartes]
    refine List.drop_left' ?_
    rw [List.length_append, List.length_cons]
    omega
  have htodos : s.processBlocked = previos ++ x ::
      (medio ++ q :: (despues ++ [s.processBlocked.getLast hllena])) := by
    conv_lhs => rw [← List.dropLast_append_getLast hllena, hlista]
    simp
  have hterminar := terminarProceso_unico hpids htodos (by simp)
  have hdesde : s.desde x.pid = [x.pid] := by
    rw [desde, hvisto, List.dropWhile_cons_of_neg (by simp)]
  have hmismo : { s with procesosEnDeadlock := [x.pid] } = s := by rw [← hvisto]
  have hcomprobar : comprobarDeadlock (s.processBlocked.length + 1) q.pid s = .ok (x.pid, s) := by
    rw [comprobarDeadlock_requiere hq, if_neg hajeno.symm, hvisto,
      if_pos (List.mem_singleton_self _), hdesde, hmismo]
    rfl
  generalize hultimo : s.processBlocked.getLast hllena = ultimo at htodos hterminar
  have hquedan : (previos ++ (medio ++ q :: (despues ++ [ultimo]))).dropLast =
      previos ++ medio ++ q :: despues := by
    have hpartes : previos ++ (medio ++ q :: (despues ++ [ultimo])) =
        (previos ++ medio ++ q :: despues) ++ [ultimo] := by simp
    rw [hpartes, List.dropLast_concat]
  refine ⟨{ s.sacarRecursos x.pid with
    processBlocked := previos ++ (medio ++ q :: (despues ++ [ultimo])) }, ?_, ?_, ?_,
    fun p => suelto_sacarRecursos⟩
  · rw [turno, (lt_of_drop hdrop).2]
    dsimp only
    rw [hcomprobar, ok_bind]
    dsimp only
    rw [if_pos hcero, hterminar]
  · rw [visibles, hquedan]
    rw [visibles, hlista] at hpids
    refine hpids.sublist (List.Sublist.map _ ?_)
    rw [List.append_assoc]
    exact (List.sublist_cons_self _ _).append_left _
  · dsimp only
    rw [hquedan]
    have hcorto : i + 1 = (previos ++ medio).length + 2 := by
      rw [List.length_append]
      omega
    rw [hcorto, ← List.drop_drop, List.drop_left]
    cases despues <;> rfl

end Espera

section Suficiente

variable {s t : Detector} {p q x : Bloqueado} {i turnos : ℕ} {ps : List Bloqueado}

theorem recorrer_resto (hpids : s.visibles.Nodup) (hlista : s.processBlocked.dropLast.drop i = ps)
    (hsueltos : ∀ p ∈ ps, s.Suelto p) (hturnos : ps.length ≤ turnos) :
    ∃ t, recorrer turnos i s = .ok ([], t) := by
  obtain ⟨t, ht, hfin, heq⟩ := recorrer_sueltos hpids
    (hlista.trans (List.append_nil ps).symm) hsueltos
  obtain ⟨quedan, rfl⟩ := Nat.exists_eq_add_of_le hturnos
  refine ⟨t, ?_⟩
  rw [heq]
  refine recorrer_fin ?_
  rw [List.drop_eq_nil_iff, List.length_dropLast] at hfin
  exact not_lt.2 hfin

theorem recorrer_sinSemaforos (h : s.semaforosKernel.dropLast = [])
    (hturnos : s.processBlocked.length ≤ turnos + i + 1) :
    ∃ t, recorrer turnos i s = .ok ([], t) := by
  induction turnos generalizing s i with
  | zero => exact ⟨s, recorrer_fin (by omega)⟩
  | succ turnos ih =>
    by_cases hi : i < s.processBlocked.length - 1
    · have hp := List.getElem?_eq_getElem (l := s.processBlocked) (i := i) (by omega)
      generalize s.processBlocked[i] = p at hp
      have hsuelto : ∀ q : Bloqueado, s.Suelto q := by
        intro q
        unfold Suelto conseguirSemaforo
        rw [h]
        cases q.semaforoRequerido <;> rfl
      have hpcb : s.conseguirPcb p.pid ≠ none := fun hno => by
        refine conseguirPcb_eq_none.1 hno (mem_visibles ?_)
        exact List.mem_of_getElem? (getElem?_dropLast_eq_some.2 ⟨hi, hp⟩)
      obtain ⟨unPcb, hunPcb⟩ := Option.ne_none_iff_exists'.1 hpcb
      have hturno := turno_suelto hp hunPcb (hsuelto unPcb)
      obtain ⟨t, ht⟩ := @ih (s.reasignarProceso p.pid) (i + 1) h (by
        simp only [reasignarProceso, List.length_map]
        omega)
      refine ⟨t, ?_⟩
      rw [recorrer_de_turno hi hturno, ht]
      rfl
    · exact ⟨s, recorrer_fin hi⟩

theorem detectaBien_de_recorrer {terminados : List Bloqueado}
    (h : ∃ t, recorrer s.processBlocked.length 0 { s with procesosEnDeadlock := [] } =
      .ok (terminados, t))
    (hciclos : ∀ p ∈ terminados, s.EnCiclo p.pid)
    (halguno : terminados = [] → ¬ ∃ pid, s.EnCiclo pid) : s.DetectaBien := by
  obtain ⟨t, ht⟩ := chequearDeadlock_ok.2 h
  refine ⟨terminados, t, ht, hciclos, fun hciclo => ?_⟩
  cases terminados with
  | nil => exact absurd hciclo (halguno rfl)
  | cons p terminados => exact ⟨p, List.mem_cons_self, hciclos p List.mem_cons_self⟩

theorem mem_partes (hpids : s.visibles.Nodup) {antes despues : List Bloqueado}
    (hlista : s.processBlocked.dropLast = antes ++ p :: despues) (hq : q ∈ antes ++ despues) :
    q.pid ≠ p.pid := by
  rw [visibles, hlista, List.map_append, List.map_cons, List.nodup_middle, List.nodup_cons,
    ← List.map_append] at hpids
  intro heq
  rw [← heq] at hpids
  exact hpids.1 (List.mem_map_of_mem hq)

/-- One carpincho whose owner is not blocked stays alone in the list. -/
theorem recorrer_unoEspera (pid : ℤ) (hpids : s.visibles.Nodup) (hmenos : -1 ∉ s.visibles)
    (hlista : s.procesosEnDeadlock = [])
    (h : ∀ p ∈ s.processBlocked.dropLast, s.Suelto p ∨
      p.pid = pid ∧ ∃ dueno, s.Requiere pid dueno ∧ dueno ∉ s.visibles) :
    ∃ t, recorrer s.processBlocked.length 0 s = .ok ([], t) := by
  by_cases htodos : ∀ p ∈ s.processBlocked.dropLast, s.Suelto p
  · refine recorrer_resto hpids List.drop_zero htodos ?_
    rw [List.length_dropLast]
    exact Nat.sub_le _ _
  · rw [not_forall₂] at htodos
    obtain ⟨p, hp, hno⟩ := htodos
    obtain ⟨rfl, dueno, hrequiere, hdueno⟩ := (h p hp).resolve_left hno
    obtain ⟨antes, despues, hpartes⟩ := List.append_of_mem hp
    have hsueltos : ∀ q ∈ antes ++ despues, s.Suelto q := by
      intro q hq
      have hmem : q ∈ s.processBlocked.dropLast := by
        rw [hpartes]
        simp only [List.mem_append, List.mem_cons] at hq ⊢
        tauto
      exact (h q hmem).resolve_right fun hp => mem_partes hpids hpartes hq hp.1
    obtain ⟨t, ht, hresto, hturnos⟩ := recorrer_sueltos (i := 0) hpids hpartes
      fun q hq => hsueltos q (List.mem_append_left _ hq)
    rw [Nat.zero_add] at hresto hturnos
    have hpids' : (t.conVisitado p.pid).visibles.Nodup := by
      show t.visibles.Nodup
      rwa [ht.visibles]
    have hrequiere' : t.Requiere p.pid dueno :=
      (ht.requiere hpids hp (mem_of_drop hresto List.mem_cons_self)).2 hrequiere
    have hturno := turno_primero (by rwa [ht.visibles]) (lt_of_drop hresto).2
      (ht.lista.trans hlista) hrequiere' (Or.inl (by rwa [ht.visibles]))
    have hdespues : (t.conVisitado p.pid).processBlocked.dropLast.drop (antes.length + 1) =
        despues := by
      rw [conVisitado, ← List.tail_drop, hresto, List.tail_cons]
    obtain ⟨u, hu⟩ := recorrer_resto hpids' hdespues
      (fun q hq => (ht.conseguirSemaforo _).trans (hsueltos q (List.mem_append_right _ hq)))
      (Nat.le_add_right _ 1)
    have hlargo : s.processBlocked.length = antes.length + (despues.length + 1 + 1) := by
      have hcuenta := congrArg List.length hpartes
      have hpos := List.length_pos_of_mem (List.mem_of_mem_dropLast hp)
      rw [List.length_dropLast, List.length_append, List.length_cons] at hcuenta
      omega
    refine ⟨u, ?_⟩
    rw [hlargo, hturnos, recorrer_de_turno (lt_of_drop hresto).1 hturno, hu]
    rfl

theorem eq_take_append {α : Type} {l ps : List α} {x : α} {i j : ℕ} (hx : l[i]? = some x)
    (hps : l.drop (i + 1 + j) = ps) :
    l = l.take i ++ x :: ((l.drop (i + 1)).take j ++ ps) := by
  obtain ⟨hi, rfl⟩ := List.getElem?_eq_some_iff.1 hx
  have hj : l.drop (i + 1 + j) = (l.drop (i + 1)).drop j := List.drop_drop.symm
  rw [← hps, hj, List.take_append_drop, ← List.drop_eq_getElem_cons hi, List.take_append_drop]

/-- The carpincho that is found in the list is terminated, and the one after it who found it has
no turn. -/
theorem recorrer_dosEsperan {antes medio despues : List Bloqueado} (hpids : s.visibles.Nodup)
    (hmenos : -1 ∉ s.visibles) (hlista : s.procesosEnDeadlock = []) (hcero : p.pid ≠ 0)
    (hpartes : s.processBlocked.dropLast = antes ++ p :: (medio ++ q :: despues))
    (hp : ∃ dueno, s.Requiere p.pid dueno ∧ (dueno = q.pid ∨ dueno ∉ s.visibles))
    (hq : s.Requiere q.pid p.pid) (h : ∀ x ∈ antes ++ medio ++ despues.tail, s.Suelto x) :
    ∃ x t, recorrer s.processBlocked.length 0 s = .ok ([x], t) ∧ x.pid = p.pid := by
  obtain ⟨dueno, hp, hdueno⟩ := hp
  have hmemp : p ∈ s.processBlocked.dropLast := by simp [hpartes]
  have hmemq : q ∈ s.processBlocked.dropLast := by simp [hpartes]
  have hajeno : q.pid ≠ p.pid := mem_partes hpids hpartes (by simp)
  -- the turns before
  obtain ⟨t, ht, hrestot, hturnost⟩ := recorrer_sueltos (i := 0) hpids hpartes
    fun x hx => h x (by simp [hx])
  rw [Nat.zero_add] at hrestot hturnost
  have hpt : t.Requiere p.pid dueno :=
    (ht.requiere hpids hmemp (mem_of_drop hrestot List.mem_cons_self)).2 hp
  have hqt : t.Requiere q.pid p.pid :=
    (ht.requiere hpids hmemq (mem_of_drop hrestot (by simp))).2 hq
  have hturnop := turno_primero (by rwa [ht.visibles]) (lt_of_drop hrestot).2
    (ht.lista.trans hlista) hpt (by
      rcases hdueno with rfl | hno
      · exact Or.inr ⟨hajeno, hqt⟩
      · exact Or.inl (by rwa [ht.visibles]))
  -- the turns between the two
  have hmedio : (t.conVisitado p.pid).processBlocked.dropLast.drop (antes.length + 1) =
      medio ++ q :: despues := by
    rw [conVisitado, ← List.tail_drop, hrestot, List.tail_cons]
  have hpidst : (t.conVisitado p.pid).visibles.Nodup := by
    show t.visibles.Nodup
    rwa [ht.visibles]
  obtain ⟨u, hu, hrestou, hturnosu⟩ := recorrer_sueltos hpidst hmedio fun x hx =>
    (ht.conseguirSemaforo _).trans (h x (by simp [hx]))
  have hvisibles : u.visibles = s.visibles := hu.visibles.trans ht.visibles
  obtain ⟨x, hx, hxpid⟩ : ∃ x, u.processBlocked.dropLast[antes.length]? = some x ∧
      x.pid = p.pid := by
    have hpos : u.visibles[antes.length]? = some p.pid := by
      rw [hvisibles, visibles, hpartes, List.map_append, List.map_cons,
        List.getElem?_append_right (by simp)]
      simp
    rw [visibles, List.getElem?_map] at hpos
    exact Option.map_eq_some_iff.1 hpos
  have hpartesu := eq_take_append hx hrestou
  have hlargop := (List.getElem?_eq_some_iff.1 hx).1
  have hlargoq := congrArg List.length hrestou
  rw [List.length_drop, List.length_cons] at hlargoq
  have hlistau : u.procesosEnDeadlock = [x.pid] := by
    rw [hu.lista, hxpid, conVisitado, ht.lista, hlista, List.nil_append]
  have hqu : u.Requiere q.pid x.pid := by
    rw [hxpid]
    refine (hu.requiere hpidst ?_ (mem_of_drop hrestou List.mem_cons_self)).2 hqt
    exact mem_of_drop hmedio (by simp)
  rw [← hxpid] at hcero hajeno
  obtain ⟨v, hturnoq, hpidsv, hrestov, hsueltosv⟩ := turno_segundo
    (i := antes.length + 1 + medio.length) (by rwa [hvisibles]) hpartesu (by
      rw [List.length_take, List.length_take, List.length_drop]
      omega) hlistau hcero hajeno.symm hqu
  -- the turns after
  obtain ⟨w, hw⟩ := recorrer_resto hpidsv hrestov (fun y hy => by
    rw [hsueltosv, Suelto, hu.conseguirSemaforo]
    exact (ht.conseguirSemaforo _).trans (h y (List.mem_append_right _ hy)))
    (Nat.le_add_right _ (s.processBlocked.length - 1 - (antes.length + 1 + medio.length +
      despues.tail.length)))
  refine ⟨x, w, ?_, hxpid⟩
  have hlargo : s.processBlocked.length = antes.length + (medio.length + ((despues.tail.length +
      (s.processBlocked.length - 1 - (antes.length + 1 + medio.length + despues.tail.length))) +
      1) + 1) := by
    have hcuenta := congrArg List.length hpartes
    have hpos := List.length_pos_of_mem (List.mem_of_mem_dropLast hmemp)
    simp only [List.length_dropLast, List.length_append, List.length_cons] at hcuenta
    rw [List.length_tail]
    omega
  rw [hlargo, hturnost, recorrer_de_turno (lt_of_drop hrestot).1 hturnop, hturnosu,
    recorrer_de_turno (lt_of_drop hrestou).1 hturnoq, hw]
  rfl

end Suficiente

section Anulados

variable {s t t' : Detector} {p q : Bloqueado} {i llamadas : ℕ} {ps : List Bloqueado}
  {anulados raices : List ℤ} {pid dueno resultado : ℤ}

def anular (anulados : List ℤ) (p : Bloqueado) : Bloqueado :=
  if p.pid ∈ anulados then { p with semaforoRequerido := none } else p

theorem pid_anular : (anular anulados p).pid = p.pid := by
  unfold anular
  split <;> rfl

/-- A state of a pass in which these carpinchos have lost the names of their semaphores. -/
structure Anulado (s : Detector) (anulados : List ℤ) (t : Detector) : Prop where
  semaforos : t.semaforosKernel = s.semaforosKernel
  bloqueados : t.processBlocked.dropLast = s.processBlocked.dropLast.map (anular anulados)
  lista : t.procesosEnDeadlock ⊆ s.visibles
  libres : ∀ pid ∈ anulados, ∀ dueno, ¬ s.Requiere pid dueno

theorem conseguirSemaforo_eq_some {nombre : Option String} {sem : Recurso}
    (h : s.conseguirSemaforo nombre = .ok (some sem)) :
    nombre = some sem.nombreSem ∧ sem ∈ s.semaforosKernel.dropLast := by
  unfold conseguirSemaforo at h
  cases nombre with
  | none =>
    dsimp only at h
    split at h <;> cases h
  | some nombre =>
    have hfind := Except.ok.inj h
    have heq : sem.nombreSem = nombre := by simpa using List.find?_some hfind
    exact ⟨by rw [heq], List.mem_of_find?_eq_some hfind⟩

theorem Requiere.espera (h : s.Requiere pid dueno) : s.Espera pid dueno := by
  obtain ⟨unPcb, sem, hpcb, hsem, hdueno⟩ := h
  have hmem : unPcb ∈ s.processBlocked.dropLast := List.mem_of_find?_eq_some hpcb
  obtain ⟨hnombre, hsem⟩ := conseguirSemaforo_eq_some hsem
  exact ⟨unPcb, List.mem_of_mem_dropLast hmem, (conseguirPcb_eq_some hpcb).1, sem,
    List.mem_of_mem_dropLast hsem, hnombre, hdueno⟩

theorem Anulado.visibles (h : s.Anulado anulados t) : t.visibles = s.visibles := by
  rw [Detector.visibles, h.bloqueados, List.map_map, Detector.visibles]
  exact List.map_congr_left fun p _ => pid_anular

theorem Anulado.conseguirPcb (h : s.Anulado anulados t) (pid : ℤ) :
    t.conseguirPcb pid = (s.conseguirPcb pid).map (anular anulados) := by
  unfold Detector.conseguirPcb
  rw [h.bloqueados, List.find?_map]
  simp only [Function.comp_def, pid_anular]

theorem Anulado.conseguirSemaforo (h : s.Anulado anulados t) (nombre : Option String) :
    t.conseguirSemaforo nombre = s.conseguirSemaforo nombre :=
  conseguirSemaforo_congr h.semaforos nombre

theorem anular_of_mem (h : p.pid ∈ anulados) : (anular anulados p).semaforoRequerido = none := by
  rw [anular, if_pos h]

theorem Anulado.requiere (h : s.Anulado anulados t) :
    t.Requiere pid dueno ↔ s.Requiere pid dueno := by
  by_cases hpid : pid ∈ anulados
  · refine iff_of_false ?_ (h.libres pid hpid dueno)
    rintro ⟨unPcb, sem, hpcb, hsem, -⟩
    rw [h.conseguirPcb, Option.map_eq_some_iff] at hpcb
    obtain ⟨p, hp, rfl⟩ := hpcb
    rw [← (conseguirPcb_eq_some hp).1] at hpid
    rw [anular_of_mem hpid] at hsem
    cases (conseguirSemaforo_eq_some hsem).1
  · have hmismo : t.conseguirPcb pid = s.conseguirPcb pid := by
      rw [h.conseguirPcb]
      cases hp : s.conseguirPcb pid with
      | none => rfl
      | some p =>
        rw [← (conseguirPcb_eq_some hp).1] at hpid
        rw [Option.map_some, anular, if_neg hpid]
    unfold Requiere
    simp only [hmismo, h.conseguirSemaforo]

theorem Anulado.conserva (h : s.Anulado anulados t) (hrequiere : t.Requiere pid dueno) :
    pid ∉ anulados :=
  fun hno => h.libres pid hno dueno (h.requiere.1 hrequiere)

/-- A call for one that has lost its name takes for a pointer what is not one. -/
theorem Anulado.conseguirSemaforo_ok (h : s.Anulado anulados t)
    (hsem : s.semaforosKernel.dropLast ≠ []) {unPcb : Bloqueado}
    (hpcb : t.conseguirPcb pid = some unPcb) {o : Option Recurso}
    (hok : t.conseguirSemaforo unPcb.semaforoRequerido = .ok o) :
    pid ∉ anulados ∧ s.conseguirPcb pid = some unPcb := by
  rw [h.conseguirPcb, Option.map_eq_some_iff] at hpcb
  obtain ⟨p, hp, rfl⟩ := hpcb
  have hpid := (conseguirPcb_eq_some hp).1
  by_cases hanulado : p.pid ∈ anulados
  · rw [anular_of_mem hanulado, Detector.conseguirSemaforo, h.semaforos, if_neg hsem] at hok
    cases hok
  · rw [← hpid, anular, if_neg hanulado]
    exact ⟨hanulado, hpid ▸ hp⟩

theorem Anulado.reasignarProceso (h : s.Anulado anulados t)
    (hlibre : ∀ dueno, ¬ s.Requiere pid dueno) :
    s.Anulado (pid :: anulados) (t.reasignarProceso pid) := by
  refine ⟨h.semaforos, ?_, h.lista, fun pid' hpid' => ?_⟩
  · unfold Detector.reasignarProceso
    dsimp only
    rw [← List.map_dropLast, h.bloqueados, List.map_map]
    refine List.map_congr_left fun p _ => ?_
    by_cases hanulado : p.pid ∈ anulados
    · simp [anular, hanulado]
    · by_cases hpid : pid = p.pid
      · subst hpid
        simp [anular, hanulado]
      · simp [anular, hanulado, Ne.symm hpid]
  · rcases List.mem_cons.1 hpid' with rfl | hpid'
    · exact hlibre
    · exact h.libres pid' hpid'

theorem Anulado.conVisitado (h : s.Anulado anulados t) (hpid : pid ∈ s.visibles) :
    s.Anulado anulados (t.conVisitado pid) := by
  refine ⟨h.semaforos, h.bloqueados, ?_, h.libres⟩
  refine List.append_subset.2 ⟨h.lista, fun x hx => ?_⟩
  rwa [List.mem_singleton.1 hx]

theorem Requiere.visible (h : s.Requiere pid dueno) : pid ∈ s.visibles := by
  obtain ⟨unPcb, sem, hpcb, -⟩ := h
  exact (conseguirPcb_eq_some hpcb).2

/-- What a call comes to when somebody is in the list: its carpincho is absent, or one of the
calls has taken a name away, or one has found one of the first PIDs of the list. -/
def Encuentra (s : Detector) (anulados anulados' raices : List ℤ) : Prop :=
  (∃ pid ∈ s.visibles, pid ∉ anulados ∧ pid ∈ anulados' ∧ ∀ dueno, ¬ s.Requiere pid dueno) ∨
    ∃ pid, ∃ raiz ∈ raices, s.Requiere pid raiz

/-- Without a cycle, a call that starts with PIDs from which its carpincho is reached finds none
of them, but for the first ones. -/
theorem Anulado.llamada (hsem : s.semaforosKernel.dropLast ≠ []) (hciclo : ¬ ∃ pid, s.EnCiclo pid)
    (h : s.Anulado anulados t) (hno : t.procesosEnDeadlock ≠ [])
    (halcanza : ∀ x ∈ t.procesosEnDeadlock, x ∈ raices ∨ Relation.TransGen s.Espera x pid)
    (hok : comprobarDeadlock llamadas pid t = .ok (resultado, t')) :
    ∃ anulados', anulados ⊆ anulados' ∧ s.Anulado anulados' t' ∧
      (pid ∉ s.visibles ∧ t.procesosEnDeadlock.length < 2 ∨
        s.Encuentra anulados anulados' raices) := by
  induction llamadas generalizing t pid resultado with
  | zero => cases hok
  | succ llamadas ih =>
    cases comprobarDeadlock_fin hok with
    | ausente hpcb hlista =>
      rw [conseguirPcb_eq_none, h.visibles] at hpcb
      exact ⟨anulados, List.Subset.refl _, h, Or.inl ⟨hpcb, hlista⟩⟩
    | sinSemaforo hpcb hninguno =>
      obtain ⟨hanulado, hpcb'⟩ := h.conseguirSemaforo_ok hsem hpcb hninguno
      have hlibre : ∀ dueno, ¬ s.Requiere pid dueno := by
        rintro dueno ⟨unPcb', sem, hunPcb', hsemaforo, -⟩
        cases hpcb'.symm.trans hunPcb'
        rw [← h.conseguirSemaforo, hninguno] at hsemaforo
        cases hsemaforo
      exact ⟨pid :: anulados, List.subset_cons_self _ _, h.reasignarProceso hlibre,
        Or.inr (Or.inl ⟨pid, (conseguirPcb_eq_some hpcb').2, hanulado, List.mem_cons_self, hlibre⟩)⟩
    | propio hrequiere =>
      exact absurd ⟨pid, .single (h.requiere.1 hrequiere).espera⟩ hciclo
    | @visto dueno hrequiere hajeno hvisto =>
      have hdesde : s.Anulado anulados { t with procesosEnDeadlock := t.desde dueno } :=
        ⟨h.semaforos, h.bloqueados, fun x hx => h.lista ((List.dropWhile_sublist _).subset hx),
          h.libres⟩
      rcases halcanza dueno hvisto with hraiz | hvuelta
      · exact ⟨anulados, List.Subset.refl _, hdesde,
          Or.inr (Or.inr ⟨pid, dueno, hraiz, h.requiere.1 hrequiere⟩)⟩
      · exact absurd ⟨dueno, hvuelta.tail (h.requiere.1 hrequiere).espera⟩ hciclo
    | @sigue dueno resultado' _ hsigue hresto =>
      have hrequiere := h.requiere.1 hsigue.requiere
      obtain ⟨anulados', hsub, h', hfin⟩ := ih (h.conVisitado hrequiere.visible)
        (conVisitado_ne_nil t pid) (fun x hx => by
          rcases List.mem_append.1 hx with hx | hx
          · exact (halcanza x hx).imp_right fun hx => hx.tail hrequiere.espera
          · rw [List.mem_singleton.1 hx]
            exact Or.inr (.single hrequiere.espera)) hresto
      refine ⟨anulados', hsub, h', Or.inr (hfin.resolve_left fun hcorta => ?_)⟩
      have hpos := List.length_pos_of_ne_nil hno
      have hlargo := hcorta.2
      rw [Detector.conVisitado, List.length_append, List.length_singleton] at hlargo
      omega

end Anulados

section Necesaria

variable {s t t' : Detector} {p q : Bloqueado} {i : ℕ} {ps : List Bloqueado}
  {anulados : List ℤ} {pid dueno raiz : ℤ}

theorem mayor_mem {l : List ℤ} (h : l ≠ []) : mayor l ∈ l := by
  obtain ⟨x, xs, rfl⟩ := List.exists_cons_of_ne_nil h
  rw [mayor]
  clear h
  induction xs generalizing x with
  | nil => exact List.mem_singleton_self x
  | cons y xs ih =>
    rw [List.foldl_cons]
    rcases max_choice x y with hmax | hmax
    · rw [hmax]
      rcases List.mem_cons.1 (ih x) with heq | hmem
      · rw [heq]
        exact List.mem_cons_self
      · exact List.mem_cons_of_mem _ (List.mem_cons_of_mem _ hmem)
    · rw [hmax]
      exact List.mem_cons_of_mem _ (ih y)

theorem turno_nada (hp : s.processBlocked[i]? = some p) (h : turno i s = .ok ([], t)) :
    ∃ resultado, comprobarDeadlock (s.processBlocked.length + 1) p.pid s = .ok (resultado, t) ∧
      (resultado = 0 ∨ resultado ∉ t.visibles) := by
  rw [turno, hp] at h
  obtain ⟨⟨resultado, u⟩, hcomprobar, h⟩ := bind_eq_ok.1 h
  dsimp only at h
  by_cases hcero : resultado = 0
  · rw [if_neg (not_not.2 hcero)] at h
    cases h
    exact ⟨resultado, hcomprobar, Or.inl hcero⟩
  · rw [if_pos hcero] at h
    have hnadie : resultado ∉ u.visibles := by
      intro hvisible
      obtain ⟨x, hx, -⟩ := (terminarProceso_pids u resultado resultado).2 ⟨rfl, hvisible⟩
      rw [Except.ok.inj h] at hx
      cases hx
    rw [terminarProceso_nadie hnadie] at h
    cases h
    exact ⟨resultado, hcomprobar, Or.inr hnadie⟩

/-- The rest of a pass over `s` that terminates nobody, from the carpinchos `ps` on. -/
structure EnPasada (s : Detector) (anulados : List ℤ) (i : ℕ) (ps : List Bloqueado)
    (t : Detector) : Prop where
  anulado : s.Anulado anulados t
  resto : s.processBlocked.dropLast.drop i = ps
  termina : ∃ turnos t', recorrer turnos i t = .ok ([], t')

theorem EnPasada.turno (h : s.EnPasada anulados i (p :: ps) t) :
    ∃ llamadas resultado t', comprobarDeadlock (llamadas + 1) p.pid t = .ok (resultado, t') ∧
      (resultado = 0 ∨ resultado ∉ t'.visibles) ∧
      ∀ anulados', s.Anulado anulados' t' → s.EnPasada anulados' (i + 1) ps t' := by
  obtain ⟨turnos, u, hturnos⟩ := h.termina
  have hresto : t.processBlocked.dropLast.drop i =
      anular anulados p :: ps.map (anular anulados) := by
    rw [h.anulado.bloqueados, ← List.map_drop, h.resto, List.map_cons]
  obtain ⟨hi, hp⟩ := lt_of_drop hresto
  obtain ⟨quedan, deEste, t', resto, hturno, hquedan, hnadie⟩ := recorrer_turno hi hturnos
  obtain ⟨rfl, rfl⟩ := List.append_eq_nil_iff.1 hnadie.symm
  obtain ⟨resultado, hcomprobar, hresultado⟩ := turno_nada hp hturno
  rw [pid_anular] at hcomprobar
  refine ⟨_, resultado, t', hcomprobar, hresultado,
    fun anulados' h' => ⟨h', ?_, quedan, u, hquedan⟩⟩
  rw [← List.tail_drop, h.resto, List.tail_cons]

theorem EnPasada.cabeza (h : s.EnPasada anulados i (p :: ps) t)
    (hsem : s.semaforosKernel.dropLast ≠ []) : p.pid ∉ anulados := by
  obtain ⟨llamadas, resultado, t', hcomprobar, -⟩ := h.turno
  have hp := mem_visibles (mem_of_drop h.resto List.mem_cons_self)
  cases comprobarDeadlock_fin hcomprobar with
  | ausente hpcb =>
    rw [conseguirPcb_eq_none, h.anulado.visibles] at hpcb
    exact absurd hp hpcb
  | sinSemaforo hpcb hninguno => exact (h.anulado.conseguirSemaforo_ok hsem hpcb hninguno).1
  | propio hrequiere => exact h.anulado.conserva hrequiere
  | visto hrequiere => exact h.anulado.conserva hrequiere
  | sigue hsigue => exact h.anulado.conserva hsigue.requiere

theorem Anulado.despues {llamadas : ℕ} {resultado : ℤ} (h : s.Anulado anulados t)
    (hsem : s.semaforosKernel.dropLast ≠ []) (hciclo : ¬ ∃ pid, s.EnCiclo pid)
    (hok : comprobarDeadlock (llamadas + 1) pid t = .ok (resultado, t')) :
    ∃ anulados', anulados ⊆ anulados' ∧ s.Anulado anulados' t' := by
  by_cases hno : t.procesosEnDeadlock = []
  · cases comprobarDeadlock_fin hok with
    | ausente => exact ⟨anulados, List.Subset.refl _, h⟩
    | sinSemaforo hpcb hninguno =>
      refine ⟨pid :: anulados, List.subset_cons_self _ _,
        h.reasignarProceso fun dueno hrequiere => ?_⟩
      obtain ⟨unPcb, sem, hunPcb, hsemaforo, -⟩ := h.requiere.2 hrequiere
      cases hpcb.symm.trans hunPcb
      cases hninguno.symm.trans hsemaforo
    | propio hrequiere =>
      exact absurd ⟨pid, .single (h.requiere.1 hrequiere).espera⟩ hciclo
    | visto _ _ hvisto =>
      rw [hno] at hvisto
      cases hvisto
    | sigue hsigue hresto =>
      obtain ⟨anulados', hsub, h', -⟩ := (h.conVisitado
        (h.requiere.1 hsigue.requiere).visible).llamada hsem hciclo
        (conVisitado_ne_nil t pid) (fun x hx => Or.inl hx) hresto
      exact ⟨anulados', hsub, h'⟩
  · obtain ⟨anulados', hsub, h', -⟩ := h.llamada hsem hciclo hno (fun x hx => Or.inl hx) hok
    exact ⟨anulados', hsub, h'⟩

theorem EnPasada.conservan (h : s.EnPasada anulados i ps t)
    (hsem : s.semaforosKernel.dropLast ≠ []) (hciclo : ¬ ∃ pid, s.EnCiclo pid) (hq : q ∈ ps) :
    q.pid ∉ anulados := by
  induction ps generalizing i anulados t with
  | nil => cases hq
  | cons p ps ih =>
    rcases List.mem_cons.1 hq with rfl | hq
    · exact h.cabeza hsem
    · obtain ⟨llamadas, resultado, t', hcomprobar, -, hsigue⟩ := h.turno
      obtain ⟨anulados', hsub, h'⟩ := h.anulado.despues hsem hciclo hcomprobar
      exact fun hno => ih (hsigue anulados' h') hq (hsub hno)

theorem no_visto {llamadas : ℕ} {resultado : ℤ} (h : s.Anulado anulados t)
    (hpos : ∀ pid ∈ s.visibles, 0 < pid) (hrequiere : s.Requiere pid dueno) (hajeno : dueno ≠ pid)
    (hok : comprobarDeadlock (llamadas + 1) pid t = .ok (resultado, t'))
    (hresultado : resultado = 0 ∨ resultado ∉ t'.visibles) : dueno ∉ t.procesosEnDeadlock := by
  intro hvisto
  rw [comprobarDeadlock_requiere (h.requiere.2 hrequiere), if_neg hajeno.symm,
    if_pos hvisto] at hok
  cases hok
  have hno : t.desde dueno ≠ [] := by
    intro hvacia
    rw [desde, List.dropWhile_eq_nil_iff] at hvacia
    simpa using hvacia dueno hvisto
  have hmayor : mayor (t.desde dueno) ∈ s.visibles :=
    h.lista ((List.dropWhile_sublist _).subset (mayor_mem hno))
  have hpositivo := hpos _ hmayor
  rcases hresultado with hcero | hfuera
  · omega
  · refine hfuera ?_
    show mayor (t.desde dueno) ∈ t.visibles
    rwa [h.visibles]

theorem EnPasada.anidada (h : s.EnPasada anulados i (p :: ps) t)
    (hciclo : ¬ ∃ pid, s.EnCiclo pid) (hpos : ∀ pid ∈ s.visibles, 0 < pid)
    (hrequiere : s.Requiere p.pid dueno) :
    ∃ llamadas resultado t', comprobarDeadlock llamadas dueno (t.conVisitado p.pid) =
        .ok (resultado, t') ∧
      ∀ anulados', s.Anulado anulados' t' → s.EnPasada anulados' (i + 1) ps t' := by
  obtain ⟨llamadas, resultado, t', hcomprobar, hresultado, hsigue⟩ := h.turno
  have hajeno : dueno ≠ p.pid := by
    rintro rfl
    exact hciclo ⟨_, .single hrequiere.espera⟩
  have hnuevo := no_visto h.anulado hpos hrequiere hajeno hcomprobar hresultado
  rw [comprobarDeadlock_sigue ⟨h.anulado.requiere.2 hrequiere, hajeno, hnuevo⟩] at hcomprobar
  cases hanidada : comprobarDeadlock llamadas dueno (t.conVisitado p.pid) with
  | error e =>
    rw [hanidada] at hcomprobar
    cases hcomprobar
  | ok r =>
    rw [hanidada] at hcomprobar
    cases hcomprobar
    exact ⟨llamadas, r.1, r.2, hanidada, hsigue⟩

theorem Anulado.no_termina {llamadas : ℕ} {r : ℤ × Detector} (h : s.Anulado anulados t)
    (hno : t.procesosEnDeadlock ≠ []) (hraiz : s.Requiere raiz dueno)
    (hdueno : dueno ∉ s.visibles) : comprobarDeadlock llamadas raiz t ≠ .ok r := by
  intro hok
  cases llamadas with
  | zero => cases hok
  | succ llamadas =>
    have hajeno : dueno ≠ raiz := fun heq => hdueno (heq ▸ hraiz.visible)
    rw [comprobarDeadlock_sigue ⟨h.requiere.2 hraiz, hajeno, fun hmem => hdueno (h.lista hmem)⟩]
      at hok
    cases llamadas with
    | zero => cases hok
    | succ llamadas =>
      have hpcb : (t.conVisitado raiz).conseguirPcb dueno = none := by
        rw [conseguirPcb_eq_none, (h.conVisitado hraiz.visible).visibles]
        exact hdueno
      have hlargo : 2 ≤ (t.conVisitado raiz).procesosEnDeadlock.length := by
        have hpos := List.length_pos_of_ne_nil hno
        rw [Detector.conVisitado, List.length_append, List.length_singleton]
        omega
      rw [comprobarDeadlock, hpcb] at hok
      dsimp only at hok
      rw [if_pos hlargo] at hok
      cases hok

/-- Nobody whose turn is still to come requires what a carpincho with an owner that is not
blocked has. -/
theorem EnPasada.sin_vuelta (h : s.EnPasada anulados i ps t)
    (hsem : s.semaforosKernel.dropLast ≠ []) (hciclo : ¬ ∃ pid, s.EnCiclo pid)
    (hpos : ∀ pid ∈ s.visibles, 0 < pid) (hraiz : s.Requiere raiz dueno)
    (hdueno : dueno ∉ s.visibles) (hq : q ∈ ps) : ¬ s.Requiere q.pid raiz := by
  induction ps generalizing i anulados t with
  | nil => cases hq
  | cons p ps ih =>
    rcases List.mem_cons.1 hq with rfl | hq
    · intro hrequiere
      obtain ⟨llamadas, resultado, t', hanidada, -⟩ := h.anidada hciclo hpos hrequiere
      exact (h.anulado.conVisitado hrequiere.visible).no_termina
        (conVisitado_ne_nil t q.pid) hraiz hdueno hanidada
    · obtain ⟨llamadas, resultado, t', hcomprobar, -, hsigue⟩ := h.turno
      obtain ⟨anulados', hsub, h'⟩ := h.anulado.despues hsem hciclo hcomprobar
      exact ih (hsigue anulados' h') hq

theorem EnPasada.propia (h : s.EnPasada anulados i (p :: ps) t)
    (hantes : ∀ x ∈ s.processBlocked.dropLast.take i, x.pid ≠ p.pid) :
    s.conseguirPcb p.pid = some p := by
  have hpartes : s.processBlocked.dropLast =
      s.processBlocked.dropLast.take i ++ p :: ps := by
    rw [← h.resto, List.take_append_drop]
  rw [Detector.conseguirPcb, hpartes, List.find?_append, List.find?_eq_none.2]
  · simp
  · intro x hx
    simpa using hantes x hx

theorem EnPasada.suelto (h : s.EnPasada anulados i (p :: ps) t)
    (hsem : s.semaforosKernel.dropLast ≠ []) (hciclo : ¬ ∃ pid, s.EnCiclo pid)
    (hpropia : s.conseguirPcb p.pid = some p) (hlibre : ∀ dueno, ¬ s.Requiere p.pid dueno) :
    s.Suelto p ∧ s.EnPasada (p.pid :: anulados) (i + 1) ps (t.reasignarProceso p.pid) ∧
      p.pid ∉ ps.map Bloqueado.pid := by
  obtain ⟨llamadas, resultado, t', hcomprobar, -, hsigue⟩ := h.turno
  have hp := (conseguirPcb_eq_some hpropia).2
  cases comprobarDeadlock_fin hcomprobar with
  | ausente hpcb =>
    rw [conseguirPcb_eq_none, h.anulado.visibles] at hpcb
    exact absurd hp hpcb
  | sinSemaforo hpcb hninguno =>
    have hpcb' := (h.anulado.conseguirSemaforo_ok hsem hpcb hninguno).2
    cases hpropia.symm.trans hpcb'
    rw [h.anulado.conseguirSemaforo] at hninguno
    have h' := hsigue _ (h.anulado.reasignarProceso hlibre)
    refine ⟨hninguno, h', fun hmem => ?_⟩
    obtain ⟨x, hx, heq⟩ := List.mem_map.1 hmem
    exact h'.conservan hsem hciclo hx (heq ▸ List.mem_cons_self)
  | propio hrequiere => exact absurd (h.anulado.requiere.1 hrequiere) (hlibre _)
  | visto hrequiere => exact absurd (h.anulado.requiere.1 hrequiere) (hlibre _)
  | sigue hsigue => exact absurd (h.anulado.requiere.1 hsigue.requiere) (hlibre _)

theorem take_succ_of_drop {α : Type} {l ps : List α} {x : α} {i : ℕ} (h : l.drop i = x :: ps) :
    l.take (i + 1) = l.take i ++ [x] := by
  rw [List.take_add_one, ← List.head?_drop, h]
  rfl

theorem EnPasada.mem_visibles (h : s.EnPasada anulados i ps t) (hpid : pid ∈ s.visibles) :
    (∃ x ∈ s.processBlocked.dropLast.take i, x.pid = pid) ∨ ∃ x ∈ ps, x.pid = pid := by
  obtain ⟨x, hx, hxpid⟩ := List.mem_map.1 hpid
  rw [← List.take_append_drop i s.processBlocked.dropLast, h.resto, List.mem_append] at hx
  exact hx.imp (fun hx => ⟨x, hx, hxpid⟩) fun hx => ⟨x, hx, hxpid⟩

/-- After the first carpincho that follows an owner nobody follows another one. -/
theorem EnPasada.segunda (h : s.EnPasada anulados i ps t)
    (hsem : s.semaforosKernel.dropLast ≠ []) (hciclo : ¬ ∃ pid, s.EnCiclo pid)
    (hpos : ∀ pid ∈ s.visibles, 0 < pid) (hlista : t.procesosEnDeadlock = [raiz])
    (hraiz : s.Requiere raiz dueno) (hdueno : dueno ∉ s.visibles)
    (hantes : ∀ x ∈ s.processBlocked.dropLast.take i, x.pid ∈ anulados ∨ x.pid = raiz) :
    (ps.map Bloqueado.pid).Nodup ∧ raiz ∉ ps.map Bloqueado.pid ∧ ∀ q ∈ ps, s.Suelto q := by
  induction ps generalizing i anulados t with
  | nil => exact ⟨List.nodup_nil, List.not_mem_nil, fun q hq => absurd hq List.not_mem_nil⟩
  | cons p ps ih =>
    have hno : t.procesosEnDeadlock ≠ [] := by
      rw [hlista]
      exact List.cons_ne_nil _ _
    have hanulado := h.cabeza hsem
    have hotro : p.pid ≠ raiz := by
      intro heq
      obtain ⟨llamadas, resultado, t', hcomprobar, -⟩ := h.turno
      rw [heq] at hcomprobar
      exact h.anulado.no_termina hno hraiz hdueno hcomprobar
    have hpropia := h.propia fun x hx heq => by
      rcases hantes x hx with hx | hx
      · exact hanulado (heq ▸ hx)
      · exact hotro (heq ▸ hx)
    by_cases hrequiere : ∃ otro, s.Requiere p.pid otro
    · obtain ⟨otro, hrequiere⟩ := hrequiere
      obtain ⟨llamadas, resultado, t', hanidada, hsigue⟩ := h.anidada hciclo hpos hrequiere
      have halcanza : ∀ x ∈ (t.conVisitado p.pid).procesosEnDeadlock,
          x ∈ [raiz] ∨ Relation.TransGen s.Espera x otro := by
        intro x hx
        rw [conVisitado, hlista] at hx
        rcases List.mem_append.1 hx with hx | hx
        · exact Or.inl hx
        · rw [List.mem_singleton.1 hx]
          exact Or.inr (.single hrequiere.espera)
      obtain ⟨anulados', hsub, h', hfin⟩ :=
        (h.anulado.conVisitado hrequiere.visible).llamada hsem hciclo
          (conVisitado_ne_nil t p.pid) halcanza hanidada
      rcases hfin with ⟨-, hcorta⟩ | ⟨z, hz, hzantes, hzahora, hlibre⟩ | ⟨w, x, hx, hvuelta⟩
      · rw [conVisitado, hlista] at hcorta
        exact absurd hcorta (by simp)
      · rcases h.mem_visibles hz with ⟨x, hx, rfl⟩ | ⟨x, hx, rfl⟩
        · rcases hantes x hx with hx | hx
          · exact absurd hx hzantes
          · exact absurd hraiz (hx ▸ hlibre dueno)
        · rcases List.mem_cons.1 hx with rfl | hx
          · exact absurd hrequiere (hlibre otro)
          · exact absurd hzahora ((hsigue anulados' h').conservan hsem hciclo hx)
      · rw [List.mem_singleton.1 hx] at hvuelta
        rcases h.mem_visibles hvuelta.visible with ⟨y, hy, rfl⟩ | ⟨y, hy, rfl⟩
        · rcases hantes y hy with hy | hy
          · exact absurd hvuelta (h.anulado.libres _ hy _)
          · rw [hy] at hvuelta
            exact absurd ⟨raiz, .single hvuelta.espera⟩ hciclo
        · exact absurd hvuelta (h.sin_vuelta hsem hciclo hpos hraiz hdueno hy)
    · rw [not_exists] at hrequiere
      obtain ⟨hsuelto, h', hunica⟩ := h.suelto hsem hciclo hpropia hrequiere
      obtain ⟨hnodup, hfuera, hsueltos⟩ := ih h' hlista fun x hx => by
        rw [take_succ_of_drop h.resto, List.mem_append, List.mem_singleton] at hx
        rcases hx with hx | rfl
        · exact (hantes x hx).imp_left (List.mem_cons_of_mem _)
        · exact Or.inl List.mem_cons_self
      refine ⟨List.nodup_cons.2 ⟨hunica, hnodup⟩, ?_, List.forall_mem_cons.2 ⟨hsuelto, hsueltos⟩⟩
      rw [List.map_cons, List.mem_cons, not_or]
      exact ⟨Ne.symm hotro, hfuera⟩

/-- A pass without a cycle follows one owner at most, who is not blocked. -/
theorem EnPasada.primera (h : s.EnPasada anulados i ps t)
    (hsem : s.semaforosKernel.dropLast ≠ []) (hciclo : ¬ ∃ pid, s.EnCiclo pid)
    (hpos : ∀ pid ∈ s.visibles, 0 < pid) (hlista : t.procesosEnDeadlock = [])
    (hantes : ∀ x ∈ s.processBlocked.dropLast.take i, x.pid ∈ anulados) :
    (ps.map Bloqueado.pid).Nodup ∧ ∃ pid, ∀ q ∈ ps, s.Suelto q ∨
      q.pid = pid ∧ ∃ dueno, s.Requiere pid dueno ∧ dueno ∉ s.visibles := by
  induction ps generalizing i anulados t with
  | nil => exact ⟨List.nodup_nil, 0, fun q hq => absurd hq List.not_mem_nil⟩
  | cons p ps ih =>
    have hanulado := h.cabeza hsem
    have hpropia := h.propia fun x hx heq => hanulado (heq ▸ hantes x hx)
    by_cases hrequiere : ∃ dueno, s.Requiere p.pid dueno
    · obtain ⟨dueno, hrequiere⟩ := hrequiere
      obtain ⟨llamadas, resultado, t', hanidada, hsigue⟩ := h.anidada hciclo hpos hrequiere
      have hvisitado := h.anulado.conVisitado hrequiere.visible
      have hunico : (t.conVisitado p.pid).procesosEnDeadlock = [p.pid] := by
        rw [conVisitado, hlista, List.nil_append]
      have hdueno : dueno ∉ s.visibles := by
        intro hvisible
        have halcanza : ∀ x ∈ (t.conVisitado p.pid).procesosEnDeadlock,
            x ∈ [] ∨ Relation.TransGen s.Espera x dueno := by
          intro x hx
          rw [hunico] at hx
          rw [List.mem_singleton.1 hx]
          exact Or.inr (.single hrequiere.espera)
        obtain ⟨anulados', hsub, h', hfin⟩ := hvisitado.llamada hsem hciclo
          (conVisitado_ne_nil t p.pid) halcanza hanidada
        rcases hfin with ⟨hno, -⟩ | ⟨z, hz, hzantes, hzahora, hlibre⟩ | ⟨w, x, hx, -⟩
        · exact hno hvisible
        · rcases h.mem_visibles hz with ⟨x, hx, rfl⟩ | ⟨x, hx, rfl⟩
          · exact hzantes (hantes x hx)
          · rcases List.mem_cons.1 hx with rfl | hx
            · exact hlibre dueno hrequiere
            · exact (hsigue anulados' h').conservan hsem hciclo hx hzahora
        · cases hx
      have hpcb : (t.conVisitado p.pid).conseguirPcb dueno = none := by
        rwa [conseguirPcb_eq_none, hvisitado.visibles]
      have ht' : t' = t.conVisitado p.pid := by
        cases llamadas with
        | zero => cases hanidada
        | succ llamadas =>
          rw [comprobarDeadlock, hpcb] at hanidada
          dsimp only at hanidada
          rw [hunico, if_neg (by simp)] at hanidada
          cases hanidada
          rfl
      rw [ht'] at hsigue
      obtain ⟨hnodup, hfuera, hsueltos⟩ := (hsigue anulados hvisitado).segunda hsem hciclo hpos
        hunico hrequiere hdueno fun x hx => by
          rw [take_succ_of_drop h.resto, List.mem_append, List.mem_singleton] at hx
          rcases hx with hx | rfl
          · exact Or.inl (hantes x hx)
          · exact Or.inr rfl
      exact ⟨List.nodup_cons.2 ⟨hfuera, hnodup⟩, p.pid, List.forall_mem_cons.2
        ⟨Or.inr ⟨rfl, dueno, hrequiere, hdueno⟩, fun q hq => Or.inl (hsueltos q hq)⟩⟩
    · rw [not_exists] at hrequiere
      obtain ⟨hsuelto, h', hunica⟩ := h.suelto hsem hciclo hpropia hrequiere
      obtain ⟨hnodup, pid, hresto⟩ := ih h' hlista fun x hx => by
        rw [take_succ_of_drop h.resto, List.mem_append, List.mem_singleton] at hx
        rcases hx with hx | rfl
        · exact List.mem_cons_of_mem _ (hantes x hx)
        · exact List.mem_cons_self
      exact ⟨List.nodup_cons.2 ⟨hunica, hnodup⟩, pid,
        List.forall_mem_cons.2 ⟨Or.inl hsuelto, hresto⟩⟩

end Necesaria

section Anidadas

variable {s s' t : Detector} {p : Bloqueado} {i j llamadas : ℕ} {pid resultado : ℤ}
  {terminados : List Bloqueado}

theorem comprobarDeadlock_vacia (hlista : s.procesosEnDeadlock = [])
    (h : comprobarDeadlock llamadas pid s = .ok (resultado, s')) :
    s'.procesosEnDeadlock = [] ∨ ∃ dueno, s.Sigue pid dueno := by
  cases llamadas with
  | zero => cases h
  | succ llamadas =>
    cases comprobarDeadlock_fin h with
    | ausente => exact Or.inl hlista
    | sinSemaforo => exact Or.inl hlista
    | propio => exact Or.inl hlista
    | visto _ _ hvisto =>
      rw [hlista] at hvisto
      cases hvisto
    | sigue hsigue => exact Or.inr ⟨_, hsigue⟩

theorem terminarProceso_lista (s : Detector) (unPID : ℤ) :
    (s.terminarProceso unPID).2.procesosEnDeadlock = s.procesosEnDeadlock := by
  unfold terminarProceso
  dsimp only
  split <;> rfl

theorem turno_vacia (hlista : s.procesosEnDeadlock = []) (hp : s.processBlocked[i]? = some p)
    (h : turno i s = .ok (terminados, s')) :
    s'.procesosEnDeadlock = [] ∨ ∃ dueno, s.Sigue p.pid dueno := by
  rw [turno, hp] at h
  obtain ⟨⟨resultado, u⟩, hcomprobar, h⟩ := bind_eq_ok.1 h
  have hlista' : s'.procesosEnDeadlock = u.procesosEnDeadlock := by
    dsimp only at h
    split at h
    · rw [← terminarProceso_lista u resultado, Except.ok.inj h]
    · cases h
      rfl
  rw [hlista']
  exact comprobarDeadlock_vacia hlista hcomprobar

theorem Llega.anidada (h : Llega i s j t) (hlista : s.procesosEnDeadlock = [])
    (hno : t.procesosEnDeadlock ≠ []) :
    ∃ k u p dueno, Llega i s k u ∧ u.processBlocked.dropLast[k]? = some p ∧
      u.Sigue p.pid dueno := by
  induction h with
  | aqui i s => exact absurd hlista hno
  | @sigue i j s s' t terminados hi hturno hresto ih =>
    have hp := List.getElem?_eq_getElem (l := s.processBlocked) (i := i) (by omega)
    rcases turno_vacia hlista hp hturno with hvacia | ⟨dueno, hsigue⟩
    · obtain ⟨k, u, p, dueno, hllega, hp, hsigue⟩ := ih hvacia hno
      exact ⟨k, u, p, dueno, .sigue hi hturno hllega, hp, hsigue⟩
    · exact ⟨i, s, _, dueno, .aqui i s, getElem?_dropLast_eq_some.2 ⟨hi, hp⟩, hsigue⟩

theorem Objetivo.lista {unPID : ℤ} (h : s.Objetivo pid unPID) :
    s.procesosEnDeadlock ≠ [] ∨ ∃ dueno, s.Sigue pid dueno := by
  cases h with
  | visto _ _ hvisto => exact Or.inl (List.ne_nil_of_mem hvisto)
  | sigue hsigue => exact Or.inr ⟨_, hsigue⟩

/-- Whoever is terminated is so after a nested call, whose result is dropped. -/
theorem anidada_de_terminado (h : recorrer llamadas 0 { s with procesosEnDeadlock := [] } =
    .ok (terminados, s')) (hp : p ∈ terminados) :
    ∃ pid t dueno, s.Turno pid t ∧ t.Sigue pid dueno := by
  obtain ⟨j, t, deEste, t', hllega, hj, hturno, hp⟩ := recorrer_mem h hp
  obtain ⟨q, hq, hqturno⟩ := turno_of_llega hllega hj
  have htermina := (turno_termina hq hturno p.pid).1 ⟨p, hp, rfl⟩
  rcases htermina.objetivo.lista with hno | ⟨dueno, hsigue⟩
  · obtain ⟨k, u, x, dueno, hllega', hx, hsigue⟩ := hllega.anidada rfl hno
    exact ⟨x.pid, u, dueno, ⟨k, x, hllega', hx, rfl⟩, hsigue⟩
  · exact ⟨q.pid, t, dueno, hqturno, hsigue⟩

end Anidadas

section Pasada

variable {s t : Detector} {i j : ℕ} {pid : ℤ}

theorem reconocible_de_detectaBien (hciclo : ¬ ∃ pid, s.EnCiclo pid)
    (hpos : ∀ pid ∈ s.visibles, 0 < pid) (h : s.DetectaBien) : s.Reconocible := by
  obtain ⟨terminados, s', h, hsolo, -⟩ := h
  obtain rfl : terminados = [] := by
    refine List.eq_nil_iff_forall_not_mem.2 fun p hp => hciclo ⟨p.pid, hsolo p hp⟩
  obtain ⟨s'', h⟩ := chequearDeadlock_ok.1 ⟨s', h⟩
  by_cases hsem : s.semaforosKernel.dropLast = []
  · exact .sinSemaforos hciclo hsem
  · have hpasada : s.EnPasada [] 0 s.processBlocked.dropLast
        { s with procesosEnDeadlock := [] } :=
      ⟨⟨rfl, (List.map_id _).symm, List.nil_subset _, fun pid hpid => absurd hpid List.not_mem_nil⟩,
        rfl, _, s'', h⟩
    obtain ⟨hpids, pid, hresto⟩ := hpasada.primera hsem hciclo hpos rfl
      fun x hx => absurd hx List.not_mem_nil
    refine .unoEspera pid hciclo hpids (fun hmenos => ?_) hresto
    have hpositivo := hpos _ hmenos
    omega

theorem detectaBien_de_reconocible (h : s.Reconocible) : s.DetectaBien := by
  cases h with
  | sinSemaforos hciclo h =>
    exact detectaBien_de_recorrer
      (@recorrer_sinSemaforos { s with procesosEnDeadlock := [] } 0 _ h (Nat.le_succ _))
      (fun p hp => absurd hp List.not_mem_nil) fun _ => hciclo
  | unoEspera pid hciclo hpids hmenos h =>
    exact detectaBien_de_recorrer
      (@recorrer_unoEspera { s with procesosEnDeadlock := [] } pid hpids hmenos rfl h)
      (fun p hp => absurd hp List.not_mem_nil) fun _ => hciclo
  | @dosEsperan antes medio despues p q hciclo hpids hmenos hcero hlista hp hq h =>
    obtain ⟨x, t, ht, hx⟩ := @recorrer_dosEsperan { s with procesosEnDeadlock := [] } p q antes
      medio despues hpids hmenos rfl hcero hlista hp hq h
    refine detectaBien_de_recorrer ⟨t, ht⟩ (fun y hy => ?_)
      fun hno => absurd hno (List.cons_ne_nil _ _)
    rw [List.mem_singleton.1 hy, hx]
    exact hciclo

/-- Two that wait for each other are found when somebody else is the last one. -/
example (s : Detector)
    (hlista : s.processBlocked = [⟨1, some "S"⟩, ⟨2, some "T"⟩, ⟨3, some "U"⟩])
    (hsemaforos : s.semaforosKernel = [⟨"S", 2⟩, ⟨"T", 1⟩, ⟨"U", 0⟩]) : s.Reconocible := by
  have hida : s.Requiere 1 2 := by
    refine ⟨⟨1, some "S"⟩, ⟨"S", 2⟩, ?_, ?_, rfl⟩
    · rw [conseguirPcb, hlista]
      decide
    · rw [conseguirSemaforo, hsemaforos]
      decide
  have hvuelta : s.Requiere 2 1 := by
    refine ⟨⟨2, some "T"⟩, ⟨"T", 1⟩, ?_, ?_, rfl⟩
    · rw [conseguirPcb, hlista]
      decide
    · rw [conseguirSemaforo, hsemaforos]
      decide
  refine @Reconocible.dosEsperan s [] [] [] ⟨1, some "S"⟩ ⟨2, some "T"⟩
    (.tail (.single hida.espera) hvuelta.espera) ?_ ?_ (by decide) ?_ ⟨2, hida, Or.inl rfl⟩
    hvuelta fun x hx => absurd hx List.not_mem_nil
  · simp [visibles, hlista]
  · simp [visibles, hlista]
  · rw [hlista]
    rfl

/-- A pass may also be right on a longer cycle, which the condition leaves out: here the third
turn terminates one, since the first two have dropped what their calls returned. -/
example : returns (chequearDeadlock
    { processBlocked := [⟨1, some "S"⟩, ⟨2, some "T"⟩, ⟨3, some "U"⟩, ⟨4, some "U"⟩]
      processReady := []
      semaforosKernel := [⟨"S", 2⟩, ⟨"T", 3⟩, ⟨"U", 1⟩, ⟨"V", 0⟩]
      procesosEnDeadlock := [] }) (fun r => r.1.map Bloqueado.pid = [2]) = true := by
  decide +kernel

end Pasada

end Detector

end Carpinchos.Kernel
