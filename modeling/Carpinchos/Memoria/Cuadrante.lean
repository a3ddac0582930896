import Carpinchos.Memoria.Nucleo

/-!
# The hands of the clock and the pages they go over

M-CLOCK starts where its hand was left, among pages that may be fewer now. What decides
whether the hand still points at one of them is which pages each carpincho has, which of them
are candidates, and which frames they are in. Pages come into frames and leave them here one
at a time, and a page that leaves gives its frame to another one that the same hand goes over.
-/

namespace Carpinchos.Memoria

structure Lugar where
  nombre : ℤ × ℤ
  presencia : Bool
  marco : ℤ

/-- The state of the memory module as far as the hands are concerned. -/
structure Cuadrante where
  procesos : List Proceso
  marcos : List Marco
  lugar : ℕ → Lugar
  puntero : ℕ

def Marco.nombre (m : Marco) : ℤ × ℤ := (m.pid, m.pagina)

namespace Cuadrante

section Definiciones

variable (tipo : TipoAsignacion) (r : Cuadrante)

def existe (p : ℕ) : Prop := ∃ c ∈ r.procesos, p ∈ c.paginas

def alojada (p : ℕ) : Bool := r.marcos.any fun m => decide (m.nombre = (r.lugar p).nombre)

/-- DINAMICA looks for candidates by the bit of the descriptor, FIJA by the frames. -/
def presente (p : ℕ) : Bool :=
  match tipo with
  | .dinamica => (r.lugar p).presencia
  | .fija => r.alojada p

def proceso (pid : ℤ) : Option Proceso := r.procesos.find? fun c => decide (c.pid = pid)

def grupo (pid : ℤ) : List ℕ :=
  match tipo with
  | .dinamica => r.procesos.flatMap Proceso.paginas
  | .fija => ((r.proceso pid).map Proceso.paginas).getD []

def candidatas (pid : ℤ) : List ℕ := (r.grupo tipo pid).filter (r.presente tipo)

def manecilla (pid : ℤ) : ℕ :=
  match tipo with
  | .dinamica => r.puntero
  | .fija => ((r.proceso pid).map Proceso.puntero).getD 0

/-- Pages have different names, which carry the pid of their carpincho, and frames have
different numbers. -/
structure Padron : Prop where
  pids : (r.procesos.map Proceso.pid).Nodup
  nombres : ∀ c ∈ r.procesos, ∀ p ∈ c.paginas,
    (r.lugar p).nombre.1 = c.pid ∧ (r.lugar p).nombre.2 ≠ 0
  paginas : ∀ c ∈ r.procesos, c.paginas.Nodup
  distintas : ∀ p q, r.existe p → r.existe q → (r.lugar p).nombre = (r.lugar q).nombre → p = q
  numeros : (r.marcos.map Marco.marco).Nodup

/-- A candidate is in one frame, and its descriptor names that frame unless it holds the -1
of an access that has failed. -/
structure Ubicada (p : ℕ) : Prop where
  alojada : r.presente tipo p = true → r.alojada p = true
  marco : r.presente tipo p = true → (r.lugar p).marco = -1 ∨
    ∃ m ∈ r.marcos, m.marco = (r.lugar p).marco ∧ m.nombre = (r.lugar p).nombre
  unico : ∀ m ∈ r.marcos, ∀ m' ∈ r.marcos,
    m.nombre = (r.lugar p).nombre → m'.nombre = (r.lugar p).nombre → m.marco = m'.marco

/-- No hand points past the candidates. -/
structure EnHora : Prop where
  ubicadas : ∀ p, r.existe p → r.Ubicada tipo p
  manecillas : ∀ pid, r.manecilla tipo pid = 0 ∨
    r.manecilla tipo pid < (r.candidatas tipo pid).length

def vaciar (v : ℕ) (k : ℤ) : Cuadrante :=
  { r with
    marcos := r.marcos.map fun m => if m.marco = k then m.vacio else m
    lugar := Function.update r.lugar v { r.lugar v with presencia := false, marco := 0 } }

def ocupar (k : ℤ) (nombre : ℤ × ℤ) : Cuadrante :=
  { r with
    marcos := r.marcos.map fun m => if m.marco = k then m.ocupado nombre.1 nombre.2 else m }

/-- What an access writes to the descriptor of its page. -/
def ubicar (p : ℕ) (k : ℤ) (presencia : Bool) : Cuadrante :=
  { r with
    lugar := Function.update r.lugar p { r.lugar p with presencia := presencia, marco := k } }

end Definiciones

section Listas

variable {l : List ℕ} {f g : ℕ → Bool} {v p : ℕ}

theorem length_filter_le_add (hl : l.Nodup) (h : ∀ q ∈ l, q ≠ v → f q = true → g q = true) :
    (l.filter f).length ≤ (l.filter g).length + if v ∈ l then 1 else 0 := by
  rw [← List.countP_eq_length_filter, ← List.countP_eq_length_filter]
  induction l with
  | nil => exact Nat.zero_le _
  | cons x l ih =>
    obtain ⟨hx, hl⟩ := List.nodup_cons.1 hl
    have hresto := ih hl fun q hq => h q (List.mem_cons_of_mem _ hq)
    rw [List.countP_cons, List.countP_cons]
    rcases eq_or_ne v x with rfl | hne
    · rw [if_neg hx] at hresto
      rw [if_pos (List.mem_cons_self : v ∈ v :: l)]
      split <;> split <;> omega
    · have hcabeza := h x List.mem_cons_self hne.symm
      have hmem : (if v ∈ x :: l then 1 else 0) = if v ∈ l then 1 else 0 :=
        if_congr (List.mem_cons.trans (or_iff_right hne)) rfl rfl
      rw [hmem]
      cases hf : f x with
      | false =>
        rw [if_neg Bool.false_ne_true]
        omega
      | true =>
        rw [hcabeza hf]
        omega

theorem add_length_filter_le (hl : l.Nodup) (h : ∀ q ∈ l, q ≠ p → f q = true → g q = true)
    (hf : f p = false) (hg : g p = true) :
    (l.filter f).length + (if p ∈ l then 1 else 0) ≤ (l.filter g).length := by
  rw [← List.countP_eq_length_filter, ← List.countP_eq_length_filter]
  induction l with
  | nil => exact Nat.zero_le _
  | cons x l ih =>
    obtain ⟨hx, hl⟩ := List.nodup_cons.1 hl
    have hresto := ih hl fun q hq => h q (List.mem_cons_of_mem _ hq)
    rw [List.countP_cons, List.countP_cons]
    rcases eq_or_ne p x with rfl | hne
    · rw [if_neg hx] at hresto
      rw [if_pos (List.mem_cons_self : p ∈ p :: l), hf, hg, if_neg Bool.false_ne_true, if_pos rfl]
      omega
    · have hcabeza := h x List.mem_cons_self hne.symm
      have hmem : (if p ∈ x :: l then 1 else 0) = if p ∈ l then 1 else 0 :=
        if_congr (List.mem_cons.trans (or_iff_right hne)) rfl rfl
      rw [hmem]
      cases hfx : f x with
      | false =>
        rw [if_neg Bool.false_ne_true]
        omega
      | true =>
        rw [hcabeza hfx]
        omega

end Listas

section Grupos

variable {tipo : TipoAsignacion} {r r' : Cuadrante} {pid : ℤ} {p v : ℕ}

theorem proceso_some {c : Proceso} (h : r.proceso pid = some c) :
    c ∈ r.procesos ∧ c.pid = pid :=
  ⟨List.mem_of_find?_eq_some h, by simpa using List.find?_some h⟩

theorem Padron.proceso_eq (h : r.Padron) {c : Proceso} (hc : c ∈ r.procesos) :
    r.proceso c.pid = some c := by
  cases hd : r.proceso c.pid with
  | none => simpa using List.find?_eq_none.1 hd c hc
  | some d => rw [List.inj_on_of_nodup_map h.pids hc (proceso_some hd).1 (proceso_some hd).2.symm]

theorem existe_of_grupo (h : p ∈ r.grupo tipo pid) : r.existe p := by
  unfold grupo at h
  cases tipo with
  | dinamica =>
    obtain ⟨c, hc, hp⟩ := List.mem_flatMap.1 h
    exact ⟨c, hc, hp⟩
  | fija =>
    cases hc : r.proceso pid with
    | none =>
      rw [hc] at h
      cases h
    | some c =>
      rw [hc] at h
      exact ⟨c, (proceso_some hc).1, h⟩

theorem Padron.pid_of_grupo (h : r.Padron) (hp : p ∈ r.grupo .fija pid) :
    (r.lugar p).nombre.1 = pid := by
  unfold grupo at hp
  cases hc : r.proceso pid with
  | none =>
    rw [hc] at hp
    cases hp
  | some c =>
    rw [hc] at hp
    rw [(h.nombres c (proceso_some hc).1 p hp).1, (proceso_some hc).2]

/-- A hand goes over a page just when it is the hand of its carpincho. -/
theorem Padron.mem_grupo_iff (h : r.Padron) (hp : r.existe p) :
    p ∈ r.grupo tipo pid ↔ tipo = .dinamica ∨ (r.lugar p).nombre.1 = pid := by
  obtain ⟨c, hc, hpc⟩ := hp
  cases tipo with
  | dinamica => exact iff_of_true (List.mem_flatMap.2 ⟨c, hc, hpc⟩) (.inl rfl)
  | fija =>
    constructor
    · intro hmem
      exact .inr (h.pid_of_grupo hmem)
    · rintro (hno | rfl)
      · cases hno
      · rw [(h.nombres c hc p hpc).1, grupo, h.proceso_eq hc]
        exact hpc

theorem Padron.grupo_nodup (h : r.Padron) (tipo : TipoAsignacion) (pid : ℤ) :
    (r.grupo tipo pid).Nodup := by
  unfold grupo
  cases tipo with
  | dinamica =>
    refine List.nodup_flatMap.2 ⟨h.paginas, ?_⟩
    have hpids := List.pairwise_map.1 h.pids
    refine hpids.imp_of_mem fun {c d} hc hd hne p hpc hpd => hne ?_
    rw [← (h.nombres c hc p hpc).1, ← (h.nombres d hd p hpd).1]
  | fija =>
    cases hc : r.proceso pid with
    | none => exact List.nodup_nil
    | some c => exact h.paginas c (proceso_some hc).1

theorem Padron.congr (h : r.Padron)
    (hprocesos : r'.procesos.map (fun c => (c.pid, c.paginas)) =
      r.procesos.map fun c => (c.pid, c.paginas))
    (hnombres : ∀ q, (r'.lugar q).nombre = (r.lugar q).nombre)
    (hmarcos : r'.marcos.map Marco.marco = r.marcos.map Marco.marco) : r'.Padron := by
  have hde : ∀ c' ∈ r'.procesos, ∃ c ∈ r.procesos, c.pid = c'.pid ∧ c.paginas = c'.paginas := by
    intro c' hc'
    have hmem := List.mem_map_of_mem (f := fun c : Proceso => (c.pid, c.paginas)) hc'
    rw [hprocesos] at hmem
    obtain ⟨c, hc, heq⟩ := List.mem_map.1 hmem
    exact ⟨c, hc, congrArg Prod.fst heq, congrArg Prod.snd heq⟩
  have hexiste : ∀ q, r'.existe q → r.existe q := by
    rintro q ⟨c', hc', hq⟩
    obtain ⟨c, hc, -, hpaginas⟩ := hde c' hc'
    exact ⟨c, hc, hpaginas ▸ hq⟩
  refine ⟨?_, ?_, ?_, ?_, hmarcos ▸ h.numeros⟩
  · have hpids := congrArg (List.map Prod.fst) hprocesos
    rw [List.map_map, List.map_map] at hpids
    rw [show r'.procesos.map Proceso.pid = r.procesos.map Proceso.pid from hpids]
    exact h.pids
  · intro c' hc' q hq
    obtain ⟨c, hc, hpid, hpaginas⟩ := hde c' hc'
    rw [hnombres, ← hpid]
    exact h.nombres c hc q (hpaginas ▸ hq)
  · intro c' hc'
    obtain ⟨c, hc, -, hpaginas⟩ := hde c' hc'
    exact hpaginas ▸ h.paginas c hc
  · intro q q' hq hq' heq
    rw [hnombres, hnombres] at heq
    exact h.distintas q q' (hexiste q hq) (hexiste q' hq') heq

theorem Padron.marco_inj (h : r.Padron) {m m' : Marco} (hm : m ∈ r.marcos) (hm' : m' ∈ r.marcos)
    (heq : m.marco = m'.marco) : m = m' :=
  List.inj_on_of_nodup_map h.numeros hm hm' heq

theorem alojada_iff : r.alojada p = true ↔ ∃ m ∈ r.marcos, m.nombre = (r.lugar p).nombre := by
  rw [alojada, List.any_eq_true]
  exact exists_congr fun m => and_congr_right fun _ => decide_eq_true_iff

end Grupos

section Mudanzas

variable {tipo : TipoAsignacion} {r : Cuadrante} {pid k j : ℤ} {p q v : ℕ} {b : Bool}

@[simp] theorem nombre_vaciar (v : ℕ) (k : ℤ) (q : ℕ) :
    ((r.vaciar v k).lugar q).nombre = (r.lugar q).nombre := by
  rcases eq_or_ne q v with rfl | hq
  · simp [vaciar]
  · simp [vaciar, hq]

theorem lugar_vaciar_of_ne (hq : q ≠ v) : (r.vaciar v k).lugar q = r.lugar q :=
  Function.update_of_ne hq _ _

theorem padron_vaciar (h : r.Padron) (v : ℕ) (k : ℤ) : (r.vaciar v k).Padron := by
  refine h.congr rfl (nombre_vaciar v k) ?_
  simp only [vaciar, List.map_map]
  refine List.map_congr_left fun m _ => ?_
  rw [Function.comp_apply]
  split <;> rfl

theorem mem_vaciar_iff (hr : r.Padron) (hv : r.existe v) {m₀ : Marco} (hm₀ : m₀ ∈ r.marcos)
    (hnombre : m₀.nombre = (r.lugar v).nombre) (hq : r.existe q) (hne : q ≠ v) {m : Marco} :
    m ∈ (r.vaciar v m₀.marco).marcos ∧ m.nombre = (r.lugar q).nombre ↔
      m ∈ r.marcos ∧ m.nombre = (r.lugar q).nombre := by
  obtain ⟨c, hc, hqc⟩ := hq
  have hcero := (hr.nombres c hc q hqc).2
  constructor
  · rintro ⟨hm, hmq⟩
    obtain ⟨u, hu, rfl⟩ := List.mem_map.1 hm
    split at hmq
    · exact absurd (congrArg Prod.snd hmq).symm hcero
    · next hmarco =>
      rw [if_neg hmarco]
      exact ⟨hu, hmq⟩
  · rintro ⟨hm, hmq⟩
    have hmarco : m.marco ≠ m₀.marco := by
      intro heq
      rw [hr.marco_inj hm hm₀ heq, hnombre] at hmq
      exact hne (hr.distintas q v ⟨c, hc, hqc⟩ hv hmq.symm)
    exact ⟨List.mem_map.2 ⟨m, hm, if_neg hmarco⟩, hmq⟩

theorem alojada_vaciar (hr : r.Padron) (hv : r.existe v) (h : r.Ubicada tipo v) {m₀ : Marco}
    (hm₀ : m₀ ∈ r.marcos) (hnombre : m₀.nombre = (r.lugar v).nombre) :
    (r.vaciar v m₀.marco).alojada v = false := by
  obtain ⟨c, hc, hvc⟩ := hv
  rw [Bool.eq_false_iff, Ne, alojada_iff, nombre_vaciar]
  rintro ⟨m, hm, hmv⟩
  obtain ⟨u, hu, rfl⟩ := List.mem_map.1 hm
  split at hmv
  · exact (hr.nombres c hc v hvc).2 (congrArg Prod.snd hmv).symm
  · next hmarco => exact hmarco (h.unico u hu m₀ hm₀ hmv hnombre)

theorem alojada_vaciar_of_ne (hr : r.Padron) (hv : r.existe v) {m₀ : Marco} (hm₀ : m₀ ∈ r.marcos)
    (hnombre : m₀.nombre = (r.lugar v).nombre) (hq : r.existe q) (hne : q ≠ v) :
    (r.vaciar v m₀.marco).alojada q = r.alojada q := by
  rw [Bool.eq_iff_iff, alojada_iff, alojada_iff, nombre_vaciar]
  exact exists_congr fun m => mem_vaciar_iff hr hv hm₀ hnombre hq hne

theorem vaciar_ubicadas (hr : r.Padron) (h : ∀ q, r.existe q → r.Ubicada tipo q)
    (hv : r.existe v) {m₀ : Marco} (hm₀ : m₀ ∈ r.marcos)
    (hnombre : m₀.nombre = (r.lugar v).nombre) :
    (∀ q, r.existe q → (r.vaciar v m₀.marco).Ubicada tipo q) ∧
      ∀ q, r.existe q → q ≠ v →
        (r.vaciar v m₀.marco).presente tipo q = r.presente tipo q := by
  have halojada : ∀ q, r.existe q → q ≠ v →
      (r.vaciar v m₀.marco).alojada q = r.alojada q :=
    fun q hq hne => alojada_vaciar_of_ne hr hv hm₀ hnombre hq hne
  have hpresente : ∀ q, r.existe q → q ≠ v →
      (r.vaciar v m₀.marco).presente tipo q = r.presente tipo q := by
    intro q hq hne
    cases tipo with
    | dinamica => exact congrArg Lugar.presencia (lugar_vaciar_of_ne hne)
    | fija => exact halojada q hq hne
  refine ⟨fun q hq => ?_, hpresente⟩
  rcases eq_or_ne q v with rfl | hne
  · have hno : (r.vaciar q m₀.marco).presente tipo q = false := by
      cases tipo with
      | dinamica => simp [presente, vaciar]
      | fija => exact alojada_vaciar hr hq (h q hq) hm₀ hnombre
    have hvacia := alojada_vaciar hr hq (h q hq) hm₀ hnombre
    refine ⟨fun hsi => absurd hsi (by rw [hno]; exact Bool.false_ne_true),
      fun hsi => absurd hsi (by rw [hno]; exact Bool.false_ne_true), fun m hm _ _ hmq => ?_⟩
    rw [Bool.eq_false_iff, Ne, alojada_iff] at hvacia
    exact absurd ⟨m, hm, hmq⟩ hvacia
  · have hq' := h q hq
    refine ⟨fun hsi => ?_, fun hsi => ?_, fun m hm m' hm' hmq hmq' => ?_⟩
    · rw [halojada q hq hne]
      exact hq'.alojada (hpresente q hq hne ▸ hsi)
    · rw [lugar_vaciar_of_ne hne]
      refine (hq'.marco (hpresente q hq hne ▸ hsi)).imp id ?_
      rintro ⟨m, hm, hmarco, hmq⟩
      exact ⟨m, ((mem_vaciar_iff hr hv hm₀ hnombre hq hne).2 ⟨hm, hmq⟩).1, hmarco, hmq⟩
    · rw [nombre_vaciar] at hmq hmq'
      exact hq'.unico m ((mem_vaciar_iff hr hv hm₀ hnombre hq hne).1 ⟨hm, hmq⟩).1 m'
        ((mem_vaciar_iff hr hv hm₀ hnombre hq hne).1 ⟨hm', hmq'⟩).1 hmq hmq'

/-- The frame is given to the page, whose descriptor is told the number or, under FIJA, left
with the -1 of a transfer that has been refused. -/
def alojar (p : ℕ) (k j : ℤ) (b : Bool) (r : Cuadrante) : Cuadrante :=
  (r.ocupar k (r.lugar p).nombre).ubicar p j b

@[simp] theorem nombre_ubicar (p : ℕ) (k : ℤ) (b : Bool) (q : ℕ) :
    ((r.ubicar p k b).lugar q).nombre = (r.lugar q).nombre := by
  rcases eq_or_ne q p with rfl | hq
  · simp [ubicar]
  · simp [ubicar, hq]

@[simp] theorem nombre_alojar (p : ℕ) (k j : ℤ) (b : Bool) (q : ℕ) :
    ((r.alojar p k j b).lugar q).nombre = (r.lugar q).nombre :=
  nombre_ubicar (r := r.ocupar k (r.lugar p).nombre) p j b q

theorem lugar_ubicar_of_ne (hq : q ≠ p) : (r.ubicar p k b).lugar q = r.lugar q :=
  Function.update_of_ne hq _ _

theorem padron_alojar (h : r.Padron) (p : ℕ) (k j : ℤ) (b : Bool) : (r.alojar p k j b).Padron := by
  refine h.congr rfl (nombre_alojar p k j b) ?_
  simp only [alojar, ubicar, ocupar, List.map_map]
  refine List.map_congr_left fun m _ => ?_
  rw [Function.comp_apply]
  split <;> rfl

def Libre (r : Cuadrante) (k : ℤ) : Prop :=
  (∃ m ∈ r.marcos, m.marco = k) ∧
    ∀ q, r.existe q → ∀ m ∈ r.marcos, m.marco = k → m.nombre ≠ (r.lugar q).nombre

def Anotado (tipo : TipoAsignacion) (k j : ℤ) (b : Bool) : Prop :=
  j = k ∧ b = true ∨ tipo = .fija ∧ j = -1

theorem mem_alojar_iff (hk : r.Libre k) (hq : r.existe q)
    (hne : (r.lugar q).nombre ≠ (r.lugar p).nombre) {m : Marco} :
    m ∈ (r.alojar p k j b).marcos ∧ m.nombre = (r.lugar q).nombre ↔
      m ∈ r.marcos ∧ m.nombre = (r.lugar q).nombre := by
  constructor
  · rintro ⟨hm, hmq⟩
    obtain ⟨u, hu, rfl⟩ := List.mem_map.1 hm
    split at hmq
    · exact absurd hmq.symm hne
    · next hmarco =>
      rw [if_neg hmarco]
      exact ⟨hu, hmq⟩
  · rintro ⟨hm, hmq⟩
    have hmarco : m.marco ≠ k := fun heq => hk.2 q hq m hm heq hmq
    exact ⟨List.mem_map.2 ⟨m, hm, if_neg hmarco⟩, hmq⟩

theorem mem_alojar_self (hno : r.alojada p = false) {m : Marco}
    (hm : m ∈ (r.alojar p k j b).marcos) (hmp : m.nombre = (r.lugar p).nombre) : m.marco = k := by
  obtain ⟨u, hu, rfl⟩ := List.mem_map.1 hm
  split at hmp
  · next hmarco =>
    rw [if_pos hmarco]
    exact hmarco
  · rw [Bool.eq_false_iff, Ne, alojada_iff] at hno
    exact absurd ⟨u, hu, hmp⟩ hno

theorem alojar_ubicadas (h : ∀ q, r.existe q → r.Ubicada tipo q) (hk : r.Libre k)
    (hno : r.alojada p = false) (hj : Anotado tipo k j b)
    (hp : ∀ q, r.existe q → (r.lugar q).nombre = (r.lugar p).nombre → q = p) :
    (∀ q, r.existe q ∨ q = p → (r.alojar p k j b).Ubicada tipo q) ∧
      (∀ q, r.existe q → q ≠ p →
        (r.alojar p k j b).presente tipo q = r.presente tipo q) ∧
      (r.alojar p k j b).presente tipo p = true := by
  have halojada : ∀ q, r.existe q → q ≠ p → (r.alojar p k j b).alojada q = r.alojada q := by
    intro q hq hne
    rw [Bool.eq_iff_iff, alojada_iff, alojada_iff, nombre_alojar]
    exact exists_congr fun m => mem_alojar_iff hk hq (mt (hp q hq) hne)
  have hpresente : ∀ q, r.existe q → q ≠ p →
      (r.alojar p k j b).presente tipo q = r.presente tipo q := by
    intro q hq hne
    cases tipo with
    | dinamica => exact congrArg Lugar.presencia (lugar_ubicar_of_ne hne)
    | fija => exact halojada q hq hne
  obtain ⟨m₀, hm₀, hmarco₀⟩ := hk.1
  have hen : m₀.ocupado (r.lugar p).nombre.1 (r.lugar p).nombre.2 ∈ (r.alojar p k j b).marcos :=
    List.mem_map.2 ⟨m₀, hm₀, if_pos hmarco₀⟩
  have hpalojada : (r.alojar p k j b).alojada p = true :=
    alojada_iff.2 ⟨_, hen, (nombre_alojar p k j b p).symm⟩
  have hppresente : (r.alojar p k j b).presente tipo p = true := by
    cases tipo with
    | dinamica =>
      rcases hj with ⟨-, rfl⟩ | ⟨hfija, -⟩
      · simp [presente, alojar, ubicar]
      · cases hfija
    | fija => exact hpalojada
  refine ⟨fun q hq => ?_, hpresente, hppresente⟩
  rcases eq_or_ne q p with rfl | hne
  · refine ⟨fun _ => hpalojada, fun _ => ?_, fun m hm m' hm' hmq hmq' => ?_⟩
    · have hnumero : ((r.alojar q k j b).lugar q).marco = j := by simp [alojar, ubicar]
      rw [hnumero]
      rcases hj with ⟨rfl, -⟩ | ⟨-, rfl⟩
      · exact .inr ⟨_, hen, hmarco₀, (nombre_alojar q j j b q).symm⟩
      · exact .inl rfl
    · rw [nombre_alojar] at hmq hmq'
      rw [mem_alojar_self hno hm hmq, mem_alojar_self hno hm' hmq']
  · obtain hq := hq.resolve_right hne
    have hq' := h q hq
    have hdistinto := mt (hp q hq) hne
    refine ⟨fun hsi => ?_, fun hsi => ?_, fun m hm m' hm' hmq hmq' => ?_⟩
    · rw [halojada q hq hne]
      exact hq'.alojada (hpresente q hq hne ▸ hsi)
    · have hlugar : (r.alojar p k j b).lugar q = r.lugar q := lugar_ubicar_of_ne hne
      rw [hlugar]
      refine (hq'.marco (hpresente q hq hne ▸ hsi)).imp id ?_
      rintro ⟨m, hm, hmarco, hmq⟩
      exact ⟨m, ((mem_alojar_iff hk hq hdistinto).2 ⟨hm, hmq⟩).1, hmarco, hmq⟩
    · rw [nombre_alojar] at hmq hmq'
      exact hq'.unico m ((mem_alojar_iff hk hq hdistinto).1 ⟨hm, hmq⟩).1 m'
        ((mem_alojar_iff hk hq hdistinto).1 ⟨hm', hmq'⟩).1 hmq hmq'

end Mudanzas

section Pasos

variable {tipo : TipoAsignacion} {r r' : Cuadrante} {pid pid' k j : ℤ} {p v : ℕ} {b : Bool}

theorem mem_candidatas : p ∈ r.candidatas tipo pid ↔
    p ∈ r.grupo tipo pid ∧ r.presente tipo p = true := List.mem_filter

/-- A step that moves no hand and takes no candidate away. -/
theorem EnHora.of_ubicadas (h : r.EnHora tipo) (hu : ∀ q, r'.existe q → r'.Ubicada tipo q)
    (hmano : ∀ pid, r'.manecilla tipo pid = r.manecilla tipo pid)
    (hcand : ∀ pid, (r.candidatas tipo pid).length ≤ (r'.candidatas tipo pid).length) :
    r'.EnHora tipo := by
  refine ⟨hu, fun pid => ?_⟩
  rw [hmano]
  exact (h.manecillas pid).imp id fun hlt => hlt.trans_le (hcand pid)

theorem marco_de_candidata (h : r.EnHora tipo) (hv : v ∈ r.candidatas tipo pid)
    (hk : (r.lugar v).marco ≠ -1) :
    ∃ m ∈ r.marcos, m.marco = (r.lugar v).marco ∧ m.nombre = (r.lugar v).nombre := by
  obtain ⟨hgrupo, hpresente⟩ := mem_candidatas.1 hv
  exact ((h.ubicadas v (existe_of_grupo hgrupo)).marco hpresente).resolve_left hk

theorem libre_vaciar (hr : r.Padron) {m₀ : Marco} (hm₀ : m₀ ∈ r.marcos) :
    (r.vaciar v m₀.marco).Libre m₀.marco := by
  refine ⟨⟨m₀.vacio, List.mem_map.2 ⟨m₀, hm₀, if_pos rfl⟩, rfl⟩, ?_⟩
  rintro q ⟨c, hc, hq⟩ m hm hmarco hnombre
  rw [nombre_vaciar] at hnombre
  obtain ⟨u, hu, rfl⟩ := List.mem_map.1 hm
  split at hnombre
  · exact (hr.nombres c hc q hq).2 (congrArg Prod.snd hnombre).symm
  · next hne =>
    rw [if_neg hne] at hmarco
    exact hne hmarco

theorem candidatas_vaciar (hr : r.Padron) (h : r.EnHora tipo) (hv : r.existe v) {m₀ : Marco}
    (hm₀ : m₀ ∈ r.marcos) (hnombre : m₀.nombre = (r.lugar v).nombre) (pid : ℤ) :
    (r.candidatas tipo pid).length ≤
      ((r.vaciar v m₀.marco).candidatas tipo pid).length +
        if v ∈ r.grupo tipo pid then 1 else 0 := by
  obtain ⟨-, hpresente⟩ := vaciar_ubicadas hr h.ubicadas hv hm₀ hnombre
  refine length_filter_le_add (hr.grupo_nodup tipo pid) fun q hq hne hsi => ?_
  rw [hpresente q (existe_of_grupo hq) hne]
  exact hsi

/-- A page that is not in memory takes the frame of a candidate of its hand. -/
theorem EnHora.desalojar (hr : r.Padron) (h : r.EnHora tipo) (hv : v ∈ r.candidatas tipo pid)
    (hk : (r.lugar v).marco ≠ -1) (hp : p ∈ r.grupo tipo pid) (hno : r.alojada p = false)
    (hj : Anotado tipo (r.lugar v).marco j b) :
    ((r.vaciar v (r.lugar v).marco).alojar p (r.lugar v).marco j b).EnHora tipo := by
  obtain ⟨m₀, hm₀, hmarco, hnombre⟩ := marco_de_candidata h hv hk
  rw [← hmarco] at hj ⊢
  obtain ⟨hvgrupo, hvpresente⟩ := mem_candidatas.1 hv
  have hvexiste := existe_of_grupo hvgrupo
  have hpexiste := existe_of_grupo hp
  have hne : p ≠ v := by
    rintro rfl
    rw [(h.ubicadas p hpexiste).alojada hvpresente] at hno
    cases hno
  obtain ⟨hubicadas, hpresente⟩ := vaciar_ubicadas hr h.ubicadas hvexiste hm₀ hnombre
  have hr' := padron_vaciar hr v m₀.marco
  have hno' : (r.vaciar v m₀.marco).alojada p = false :=
    (alojada_vaciar_of_ne hr hvexiste hm₀ hnombre hpexiste hne).trans hno
  obtain ⟨hubicadas', hpresente', hsi⟩ := alojar_ubicadas hubicadas (libre_vaciar hr hm₀) hno' hj
    fun q hq => hr'.distintas q p hq hpexiste
  refine h.of_ubicadas (fun q hq => hubicadas' q (.inl hq)) (fun _ => rfl) fun pid' => ?_
  have hmenos := candidatas_vaciar hr h hvexiste hm₀ hnombre pid'
  have hmas : ((r.vaciar v m₀.marco).candidatas tipo pid').length +
      (if p ∈ r.grupo tipo pid' then 1 else 0) ≤
        (((r.vaciar v m₀.marco).alojar p m₀.marco j b).candidatas tipo pid').length := by
    refine add_length_filter_le (hr.grupo_nodup tipo pid') (fun q hq hne hsi' => ?_) ?_ hsi
    · rw [hpresente' q (existe_of_grupo hq) hne]
      exact hsi'
    · rw [Bool.eq_false_iff]
      intro hsi'
      rw [(hubicadas p hpexiste).alojada hsi'] at hno'
      cases hno'
  have hmismo : v ∈ r.grupo tipo pid' ↔ p ∈ r.grupo tipo pid' := by
    rw [hr.mem_grupo_iff hvexiste, hr.mem_grupo_iff hpexiste]
    rw [hr.mem_grupo_iff hvexiste] at hvgrupo
    rw [hr.mem_grupo_iff hpexiste] at hp
    rcases hvgrupo with hdin | hvpid
    · simp [hdin]
    · rcases hp with hdin | hppid
      · simp [hdin]
      · rw [hvpid, hppid]
  simp only [hmismo] at hmenos
  omega

theorem EnHora.ubicar (h : r.EnHora tipo) (hp : r.existe p) {m : Marco}
    (hm : m ∈ r.marcos) (hnombre : m.nombre = (r.lugar p).nombre) :
    (r.ubicar p m.marco true).EnHora tipo := by
  have halojada : ∀ q, (r.ubicar p m.marco true).alojada q = r.alojada q := by
    intro q
    rw [Bool.eq_iff_iff, alojada_iff, alojada_iff, nombre_ubicar]
    rfl
  have hpalojada : r.alojada p = true := alojada_iff.2 ⟨m, hm, hnombre⟩
  have hpresente : ∀ q, q ≠ p → (r.ubicar p m.marco true).presente tipo q = r.presente tipo q := by
    intro q hne
    cases tipo with
    | dinamica => exact congrArg Lugar.presencia (lugar_ubicar_of_ne hne)
    | fija => exact halojada q
  refine h.of_ubicadas (fun q hq => ?_) (fun _ => rfl) fun pid => ?_
  · have hq' := h.ubicadas q hq
    rcases eq_or_ne q p with rfl | hne
    · refine ⟨fun _ => (halojada q).trans hpalojada, fun _ => .inr ?_, ?_⟩
      · exact ⟨m, hm, by simp [Cuadrante.ubicar], (nombre_ubicar ..).symm ▸ hnombre⟩
      · rw [nombre_ubicar]
        exact hq'.unico
    · refine ⟨fun hsi => (halojada q).trans (hq'.alojada (hpresente q hne ▸ hsi)),
        fun hsi => ?_, ?_⟩
      · rw [lugar_ubicar_of_ne hne]
        exact hq'.marco (hpresente q hne ▸ hsi)
      · rw [nombre_ubicar]
        exact hq'.unico
  · refine List.Sublist.length_le (List.monotone_filter_right _ fun q hsi => ?_)
    rcases eq_or_ne q p with rfl | hne
    · cases tipo with
      | dinamica => simp [presente, Cuadrante.ubicar]
      | fija => exact (halojada q).trans hpalojada
    · rw [hpresente q hne]
      exact hsi

end Pasos

section Creacion

variable {tipo : TipoAsignacion} {r r₀ : Cuadrante} {pid pid' k : ℤ} {p q v : ℕ}

def conLugar (p : ℕ) (lugar : Lugar) (r : Cuadrante) : Cuadrante :=
  { r with lugar := Function.update r.lugar p lugar }

theorem lugar_conLugar_of_existe (hp : ¬ r.existe p) (lugar : Lugar) (hq : r.existe q) :
    (r.conLugar p lugar).lugar q = r.lugar q := by
  refine Function.update_of_ne ?_ _ _
  rintro rfl
  exact hp hq

theorem padron_conLugar (hr : r.Padron) (hp : ¬ r.existe p) (lugar : Lugar) :
    (r.conLugar p lugar).Padron := by
  refine ⟨hr.pids, fun c hc q hq => ?_, hr.paginas, fun q q' hq hq' heq => ?_, hr.numeros⟩
  · rw [lugar_conLugar_of_existe hp lugar ⟨c, hc, hq⟩]
    exact hr.nombres c hc q hq
  · rw [lugar_conLugar_of_existe hp lugar hq, lugar_conLugar_of_existe hp lugar hq'] at heq
    exact hr.distintas q q' hq hq' heq

theorem EnHora.conLugar (h : r.EnHora tipo) (hp : ¬ r.existe p) (lugar : Lugar) :
    (r.conLugar p lugar).EnHora tipo := by
  have halojada : ∀ q, r.existe q → (r.conLugar p lugar).alojada q = r.alojada q := by
    intro q hq
    unfold alojada
    rw [lugar_conLugar_of_existe hp lugar hq]
    rfl
  have hpresente : ∀ q, r.existe q →
      (r.conLugar p lugar).presente tipo q = r.presente tipo q := by
    intro q hq
    cases tipo with
    | dinamica => exact congrArg Lugar.presencia (lugar_conLugar_of_existe hp lugar hq)
    | fija => exact halojada q hq
  refine h.of_ubicadas (fun q hq => ?_) (fun pid' => by cases tipo <;> rfl) fun pid' => ?_
  · obtain ⟨haloj, hmarco, hunico⟩ := h.ubicadas q hq
    refine ⟨?_, ?_, ?_⟩
    · rw [hpresente q hq, halojada q hq]
      exact haloj
    · rw [hpresente q hq, lugar_conLugar_of_existe hp lugar hq]
      exact hmarco
    · rw [lugar_conLugar_of_existe hp lugar hq]
      exact hunico
  · refine le_of_eq (congrArg List.length (List.filter_congr fun q hq => ?_))
    exact (hpresente q (existe_of_grupo hq)).symm

theorem ocupar_ocupar (k : ℤ) (nombre : ℤ × ℤ) :
    (r.ocupar k nombre).ocupar k nombre = r.ocupar k nombre := by
  unfold ocupar
  simp only [List.map_map]
  congr 1
  refine List.map_congr_left fun m _ => ?_
  rw [Function.comp_apply]
  by_cases hm : m.marco = k
  · rw [if_pos hm]
    exact if_pos hm
  · rw [if_neg hm, if_neg hm]

def agregar (pid : ℤ) (p : ℕ) (r : Cuadrante) : Cuadrante :=
  { r with
    procesos := r.procesos.map fun c =>
      if c.pid = pid then { c with paginas := c.paginas ++ [p] } else c }

theorem proceso_agregar (pid : ℤ) (p : ℕ) (pid' : ℤ) :
    (r.agregar pid p).proceso pid' = (r.proceso pid').map fun c =>
      if c.pid = pid then { c with paginas := c.paginas ++ [p] } else c := by
  unfold proceso agregar
  dsimp only
  rw [List.find?_map]
  congr 2
  funext c
  rw [Function.comp_apply]
  split <;> rfl

theorem manecilla_agregar (pid : ℤ) (p : ℕ) (pid' : ℤ) :
    (r.agregar pid p).manecilla tipo pid' = r.manecilla tipo pid' := by
  cases tipo with
  | dinamica => rfl
  | fija =>
    unfold manecilla
    dsimp only
    rw [proceso_agregar, Option.map_map]
    congr 2
    funext c
    rw [Function.comp_apply]
    split <;> rfl

theorem existe_agregar (h : (r.agregar pid p).existe q) : r.existe q ∨ q = p := by
  obtain ⟨c', hc', hq⟩ := h
  obtain ⟨c, hc, rfl⟩ := List.mem_map.1 hc'
  split at hq
  · rcases List.mem_append.1 hq with hq | hq
    · exact .inl ⟨c, hc, hq⟩
    · exact .inr (List.mem_singleton.1 hq)
  · exact .inl ⟨c, hc, hq⟩

theorem grupo_agregar (hq : q ∈ r.grupo tipo pid') : q ∈ (r.agregar pid p).grupo tipo pid' := by
  cases tipo with
  | dinamica =>
    obtain ⟨c, hc, hqc⟩ := List.mem_flatMap.1 hq
    refine List.mem_flatMap.2 ⟨_, List.mem_map_of_mem hc, ?_⟩
    split
    · exact List.mem_append_left _ hqc
    · exact hqc
  | fija =>
    unfold grupo at hq ⊢
    rw [proceso_agregar]
    cases hc : r.proceso pid' with
    | none =>
      rw [hc] at hq
      cases hq
    | some c =>
      rw [hc] at hq
      dsimp only [Option.map_some, Option.getD_some]
      split
      · exact List.mem_append_left _ hq
      · exact hq

theorem mem_grupo_agregar (hr : r.Padron) {c : Proceso} (hc : c ∈ r.procesos)
    (h : tipo = .dinamica ∨ pid' = c.pid) : p ∈ (r.agregar c.pid p).grupo tipo pid' := by
  have hnueva : p ∈ c.paginas ++ [p] := List.mem_append_right _ List.mem_cons_self
  cases tipo with
  | dinamica =>
    refine List.mem_flatMap.2 ⟨_, List.mem_map_of_mem hc, ?_⟩
    rw [if_pos rfl]
    exact hnueva
  | fija =>
    obtain rfl := h.resolve_left (fun hno => by cases hno)
    unfold grupo
    rw [proceso_agregar, hr.proceso_eq hc]
    simp

/-- A candidate more makes up for one that has left. -/
theorem EnHora.agregar (h : r₀.EnHora tipo) (hr : r.Padron) {c : Proceso} (hc : c ∈ r.procesos)
    (hprocesos : r.procesos = r₀.procesos) (hpuntero : r.puntero = r₀.puntero)
    (hu : ∀ q, r.existe q ∨ q = p → r.Ubicada tipo q) (hp : ¬ r.existe p)
    (hsi : r.presente tipo p = true)
    (hcand : ∀ pid', (r₀.candidatas tipo pid').length ≤ (r.candidatas tipo pid').length +
      if tipo = .dinamica ∨ pid' = c.pid then 1 else 0) :
    (r.agregar c.pid p).EnHora tipo := by
  refine ⟨fun q hq => ?_, fun pid' => ?_⟩
  · obtain ⟨halojada, hmarco, hunico⟩ := hu q (existe_agregar hq)
    exact ⟨halojada, hmarco, hunico⟩
  · have hmano : (r.agregar c.pid p).manecilla tipo pid' = r₀.manecilla tipo pid' := by
      rw [manecilla_agregar]
      unfold manecilla proceso
      rw [hprocesos, hpuntero]
    rw [hmano]
    refine (h.manecillas pid').imp id fun hlt => hlt.trans_le ((hcand pid').trans ?_)
    have hsub : ∀ q ∈ r.candidatas tipo pid', q ∈ (r.agregar c.pid p).candidatas tipo pid' :=
      fun q hq => mem_candidatas.2 ⟨grupo_agregar (mem_candidatas.1 hq).1, (mem_candidatas.1 hq).2⟩
    have hnodup : (r.candidatas tipo pid').Nodup := (hr.grupo_nodup tipo pid').filter _
    split
    · next hmia =>
      have hfuera : p ∉ r.candidatas tipo pid' :=
        fun hmem => hp (existe_of_grupo (mem_candidatas.1 hmem).1)
      have hnueva : p ∈ (r.agregar c.pid p).candidatas tipo pid' :=
        mem_candidatas.2 ⟨mem_grupo_agregar hr hc hmia, hsi⟩
      refine (List.subperm_of_subset (List.nodup_cons.2 ⟨hfuera, hnodup⟩) ?_).length_le
      intro q hq
      rcases List.mem_cons.1 hq with rfl | hq
      · exact hnueva
      · exact hsub q hq
    · exact (List.subperm_of_subset hnodup hsub).length_le

theorem EnHora.crear (hr : r.Padron) (h : r.EnHora tipo) {c : Proceso} (hc : c ∈ r.procesos)
    (hk : r.Libre k) (hno : r.alojada p = false) (hp : ¬ r.existe p)
    (hnombre : ∀ q, r.existe q → (r.lugar q).nombre ≠ (r.lugar p).nombre) :
    ((r.alojar p k k true).agregar c.pid p).EnHora tipo := by
  obtain ⟨hubicadas, hpresente, hsi⟩ := alojar_ubicadas (b := true) h.ubicadas hk hno
    (.inl ⟨rfl, rfl⟩) fun q hq heq => absurd heq (hnombre q hq)
  refine h.agregar (padron_alojar hr p k k true) hc rfl rfl hubicadas hp hsi fun pid' => ?_
  have hmismas : r.candidatas tipo pid' = (r.alojar p k k true).candidatas tipo pid' := by
    refine List.filter_congr fun q hq => (hpresente q (existe_of_grupo hq) ?_).symm
    rintro rfl
    exact hp (existe_of_grupo hq)
  rw [hmismas]
  exact Nat.le_add_right _ _

theorem EnHora.crear_desalojando (hr : r.Padron) (h : r.EnHora tipo) {c : Proceso}
    (hc : c ∈ r.procesos) (hv : v ∈ r.candidatas tipo c.pid) (hk : (r.lugar v).marco ≠ -1)
    (hno : (r.vaciar v (r.lugar v).marco).alojada p = false) (hp : ¬ r.existe p)
    (hnombre : ∀ q, r.existe q → (r.lugar q).nombre ≠ (r.lugar p).nombre) :
    (((r.vaciar v (r.lugar v).marco).alojar p (r.lugar v).marco (r.lugar v).marco true).agregar
      c.pid p).EnHora tipo := by
  obtain ⟨m₀, hm₀, hmarco, hmnombre⟩ := marco_de_candidata h hv hk
  rw [← hmarco] at hno ⊢
  obtain ⟨hvgrupo, -⟩ := mem_candidatas.1 hv
  have hvexiste := existe_of_grupo hvgrupo
  obtain ⟨hubicadas, -⟩ := vaciar_ubicadas hr h.ubicadas hvexiste hm₀ hmnombre
  have hr' := padron_vaciar hr v m₀.marco
  obtain ⟨hubicadas', hpresente', hsi⟩ := alojar_ubicadas (b := true) hubicadas
    (libre_vaciar hr hm₀) hno (.inl ⟨rfl, rfl⟩) fun q hq heq => by
      rw [nombre_vaciar, nombre_vaciar] at heq
      exact absurd heq (hnombre q hq)
  refine h.agregar (padron_alojar hr' p m₀.marco m₀.marco true) hc rfl rfl hubicadas' hp hsi
    fun pid' => ?_
  have hmenos := candidatas_vaciar hr h hvexiste hm₀ hmnombre pid'
  have hmas : (r.vaciar v m₀.marco).candidatas tipo pid' =
      ((r.vaciar v m₀.marco).alojar p m₀.marco m₀.marco true).candidatas tipo pid' := by
    refine List.filter_congr fun q hq => (hpresente' q (existe_of_grupo hq) ?_).symm
    rintro rfl
    exact hp (existe_of_grupo hq)
  have hmia : v ∈ r.grupo tipo pid' → tipo = .dinamica ∨ pid' = c.pid := by
    intro hmem
    rw [hr.mem_grupo_iff hvexiste] at hmem hvgrupo
    rcases hmem with hdin | rfl
    · exact .inl hdin
    · exact hvgrupo
  rw [← hmas]
  refine hmenos.trans (Nat.add_le_add_left ?_ _)
  split
  · next hmem => rw [if_pos (hmia hmem)]
  · exact Nat.zero_le _

end Creacion

section Manos

variable {tipo : TipoAsignacion} {r : Cuadrante} {pid pid' : ℤ} {posicion : ℕ}

def mover (tipo : TipoAsignacion) (pid : ℤ) (posicion : ℕ) (r : Cuadrante) : Cuadrante :=
  match tipo with
  | .dinamica => { r with puntero := posicion }
  | .fija =>
    { r with
      procesos := r.procesos.map fun c =>
        if c.pid = pid then { c with puntero := posicion } else c }

theorem marcos_mover : (r.mover tipo pid posicion).marcos = r.marcos := by
  cases tipo <;> rfl

theorem lugar_mover : (r.mover tipo pid posicion).lugar = r.lugar := by
  cases tipo <;> rfl

theorem duenios_mover : (r.mover tipo pid posicion).procesos.map (fun c => (c.pid, c.paginas)) =
    r.procesos.map fun c => (c.pid, c.paginas) := by
  cases tipo with
  | dinamica => rfl
  | fija =>
    simp only [mover, List.map_map]
    refine List.map_congr_left fun c _ => ?_
    rw [Function.comp_apply]
    split <;> rfl

theorem padron_mover (h : r.Padron) : (r.mover tipo pid posicion).Padron :=
  h.congr duenios_mover (fun q => by rw [lugar_mover]) (by rw [marcos_mover])

theorem existe_mover {q : ℕ} (h : (r.mover tipo pid posicion).existe q) : r.existe q := by
  obtain ⟨c', hc', hq⟩ := h
  have hmem := List.mem_map_of_mem (f := fun c : Proceso => (c.pid, c.paginas)) hc'
  rw [duenios_mover] at hmem
  obtain ⟨c, hc, heq⟩ := List.mem_map.1 hmem
  have hpaginas : c.paginas = c'.paginas := congrArg Prod.snd heq
  exact ⟨c, hc, hpaginas ▸ hq⟩

theorem proceso_mover : (r.mover .fija pid posicion).proceso pid' =
    (r.proceso pid').map fun c => if c.pid = pid then { c with puntero := posicion } else c := by
  unfold proceso mover
  dsimp only
  rw [List.find?_map]
  congr 2
  funext c
  rw [Function.comp_apply]
  split <;> rfl

theorem grupo_mover : (r.mover tipo pid posicion).grupo tipo pid' = r.grupo tipo pid' := by
  cases tipo with
  | dinamica => rfl
  | fija =>
    unfold grupo
    dsimp only
    rw [proceso_mover, Option.map_map]
    congr 2
    funext c
    rw [Function.comp_apply]
    split <;> rfl

theorem candidatas_mover :
    (r.mover tipo pid posicion).candidatas tipo pid' = r.candidatas tipo pid' := by
  unfold candidatas
  rw [grupo_mover]
  refine List.filter_congr fun q _ => ?_
  cases tipo <;> rfl

/-- A hand that is put inside its candidates, or at 0. -/
theorem EnHora.mover (h : r.EnHora tipo)
    (hpos : posicion = 0 ∨ posicion < (r.candidatas tipo pid).length) :
    (r.mover tipo pid posicion).EnHora tipo := by
  refine ⟨fun q hq => ?_, fun pid' => ?_⟩
  · obtain ⟨halojada, hmarco, hunico⟩ := h.ubicadas q (existe_mover hq)
    cases tipo with
    | dinamica => exact ⟨halojada, hmarco, hunico⟩
    | fija => exact ⟨halojada, hmarco, hunico⟩
  · rw [candidatas_mover]
    cases tipo with
    | dinamica => exact hpos
    | fija =>
      have hmano := h.manecillas pid'
      unfold manecilla at hmano ⊢
      dsimp only at hmano ⊢
      rw [proceso_mover]
      cases hc : r.proceso pid' with
      | none => exact .inl rfl
      | some c =>
        rw [hc] at hmano
        dsimp only [Option.map_some, Option.getD_some] at hmano ⊢
        split
        · next hpid =>
          obtain rfl := hpid.symm.trans (proceso_some hc).2
          exact hpos
        · exact hmano

def crearProceso (pid : ℤ) (r : Cuadrante) : Cuadrante :=
  { r with procesos := r.procesos ++ [{ pid := pid, puntero := 0, paginas := [] }] }

theorem EnHora.crearProceso (h : r.EnHora tipo) (pid : ℤ) :
    (r.crearProceso pid).EnHora tipo := by
  have hgrupo : ∀ pid', (r.crearProceso pid).grupo tipo pid' = r.grupo tipo pid' := by
    intro pid'
    cases tipo with
    | dinamica => simp [grupo, Cuadrante.crearProceso]
    | fija =>
      unfold grupo proceso Cuadrante.crearProceso
      dsimp only
      rw [List.find?_append]
      cases r.procesos.find? fun c => decide (c.pid = pid') with
      | some c => rfl
      | none => by_cases hpid : pid = pid' <;> simp [hpid]
  have hmano : ∀ pid', (r.crearProceso pid).manecilla tipo pid' = r.manecilla tipo pid' := by
    intro pid'
    cases tipo with
    | dinamica => rfl
    | fija =>
      unfold manecilla proceso Cuadrante.crearProceso
      dsimp only
      rw [List.find?_append]
      cases r.procesos.find? fun c => decide (c.pid = pid') with
      | some c => rfl
      | none => by_cases hpid : pid = pid' <;> simp [hpid]
  refine h.of_ubicadas (fun q hq => ?_) hmano fun pid' => ?_
  · obtain ⟨c, hc, hqc⟩ := hq
    rcases List.mem_append.1 hc with hc | hc
    · obtain ⟨halojada, hmarco, hunico⟩ := h.ubicadas q ⟨c, hc, hqc⟩
      exact ⟨halojada, hmarco, hunico⟩
    · obtain rfl := List.mem_singleton.1 hc
      cases hqc
  · unfold candidatas
    rw [hgrupo]
    exact le_rfl

def quitarProceso (i : ℕ) (r : Cuadrante) : Cuadrante :=
  { r with procesos := r.procesos.eraseIdx i }

theorem EnHora.quitarProceso (hr : r.Padron) (h : r.EnHora tipo) {i : ℕ} {c : Proceso}
    (hc : r.procesos[i]? = some c) (hno : ∀ q ∈ c.paginas, r.alojada q = false) :
    (r.quitarProceso i).EnHora tipo := by
  obtain ⟨l₁, l₂, hlista, hsin⟩ : ∃ l₁ l₂, r.procesos = l₁ ++ c :: l₂ ∧
      (r.quitarProceso i).procesos = l₁ ++ l₂ := by
    obtain ⟨hi, hci⟩ := List.getElem?_eq_some_iff.1 hc
    refine ⟨r.procesos.take i, r.procesos.drop (i + 1), ?_, List.eraseIdx_eq_take_drop_succ ..⟩
    rw [← hci, List.cons_getElem_drop_succ, List.take_append_drop]
  have hexiste : ∀ q, (r.quitarProceso i).existe q → r.existe q := by
    rintro q ⟨d, hd, hq⟩
    exact ⟨d, (List.eraseIdx_sublist _ _).subset hd, hq⟩
  have hausentes : c.paginas.filter (r.presente tipo) = [] := by
    refine List.filter_eq_nil_iff.2 fun q hq hsi => ?_
    have halojada := (h.ubicadas q ⟨c, List.mem_of_getElem? hc, hq⟩).alojada hsi
    rw [hno q hq] at halojada
    cases halojada
  have hotro : ∀ pid', pid' ≠ c.pid → (r.quitarProceso i).proceso pid' = r.proceso pid' := by
    intro pid' hne
    unfold proceso
    rw [hsin, hlista, List.find?_append, List.find?_append, List.find?_cons,
      decide_eq_false hne.symm]
  have hmismo : (r.quitarProceso i).proceso c.pid = none := by
    unfold proceso
    rw [hsin, List.find?_eq_none]
    intro d hd hpid
    have hpids := hr.pids
    rw [hlista, List.map_append, List.map_cons, List.nodup_middle, List.nodup_cons] at hpids
    rw [← List.map_append] at hpids
    exact hpids.1 (of_decide_eq_true hpid ▸ List.mem_map_of_mem hd)
  refine ⟨fun q hq => ?_, fun pid' => ?_⟩
  · obtain ⟨halojada, hmarco, hunico⟩ := h.ubicadas q (hexiste q hq)
    exact ⟨halojada, hmarco, hunico⟩
  · cases tipo with
    | dinamica =>
      have hcand : (r.quitarProceso i).candidatas .dinamica pid' = r.candidatas .dinamica pid' := by
        unfold candidatas grupo
        dsimp only
        rw [hsin, hlista, List.flatMap_append, List.flatMap_append, List.flatMap_cons,
          List.filter_append, List.filter_append, List.filter_append]
        rw [show (r.quitarProceso i).presente .dinamica = r.presente .dinamica from rfl, hausentes,
          List.nil_append]
      rw [hcand]
      exact h.manecillas pid'
    | fija =>
      rcases eq_or_ne pid' c.pid with rfl | hne
      · left
        unfold manecilla
        dsimp only
        rw [hmismo]
        rfl
      · have hmano := h.manecillas pid'
        unfold candidatas grupo manecilla at hmano ⊢
        dsimp only at hmano ⊢
        rw [hotro pid' hne]
        exact hmano

theorem enHora_inicial (marcos : List Marco) (lugar : ℕ → Lugar) :
    EnHora tipo { procesos := [], marcos := marcos, lugar := lugar, puntero := 0 } := by
  refine ⟨fun q hq => ?_, fun pid => ?_⟩
  · obtain ⟨c, hc, -⟩ := hq
    cases hc
  · left
    cases tipo <;> rfl

end Manos

end Cuadrante

end Carpinchos.Memoria
