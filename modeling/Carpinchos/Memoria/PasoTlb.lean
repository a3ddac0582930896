import Carpinchos.Memoria.Cambios
import Carpinchos.Memoria.Libro
import Carpinchos.Memoria.NucleoPasos

/-!
# What a call does to the TLB

A read, a write or a creation uses one page. If the page has an entry, the TLB keeps its
pages. If it has none, a frame may be emptied for the page, and its entry with it, and the
page is loaded into the entry that the replacement policy chooses. An entry is replaced when
its page loses it although the page stays in its frame.
-/

namespace Carpinchos.Memoria

open Outcome Estado

variable {E : Entorno} {s s' s₁ : Estado} {p : ℕ} {k : ℤ} {u : ℤ × ℤ}

section Definiciones

def Tlb.nombre (t : Tlb) : ℤ × ℤ := (t.pid, t.pagina)

def enTlb (u : ℤ × ℤ) (s : Estado) : Bool := s.tlbList.any fun t => t.nombre = u

def ocupadas (s : Estado) : List Tlb := s.tlbList.filter fun t => t.pid ≠ 0

/-- The page that a call uses. -/
def usoEn (s : Estado) : Operacion → Option (ℤ × ℤ)
  | .createCarpincho _ => none
  | .createPagina pid =>
    (getCarpincho pid s).map fun c => (c.pid, ((c.paginas.length + 1 : ℕ) : ℤ))
  | .leerEnPagina pid pagina _ _ => some (pid, pagina)
  | .escribirEnPagina pid pagina _ _ => some (pid, pagina)

def antesDeTraducir (E : Entorno) (pid pagina : ℤ) (s : Estado) : Option Estado :=
  match buscarPagina pid pagina s with
  | .error _ => none
  | .ok p =>
    if paginaIsInTlb p s then none
    else
      match obtenerMarcoSinTlb E p s with
      | .error _ => none
      | .ok (marco, s) => if marco = -1 then none else some s

def antesDeCrear (E : Entorno) (pid : ℤ) (s : Estado) : Option Estado :=
  match getCarpincho pid s with
  | none => none
  | some c =>
    match canCarpinchoAddMarcoToPage E c { s with proximoPtr := s.proximoPtr + 1 } with
    | .error _ => none
    | .ok beforeValue =>
      match marcoParaPaginaNueva E beforeValue c.pid (c.paginas.length + 1 : ℕ)
          (conDescriptor c s) with
      | .error _ => none
      | .ok (_, s) => some s

def antesDeCargar (E : Entorno) (s : Estado) : Operacion → Option Estado
  | .createCarpincho _ => none
  | .createPagina pid => antesDeCrear E pid s
  | .leerEnPagina pid pagina _ _ => antesDeTraducir E pid pagina s
  | .escribirEnPagina pid pagina _ _ => antesDeTraducir E pid pagina s

/-- The entry has lost its page, which is still in the frame that the entry named. -/
def Reemplazada (s s' : Estado) (t : Tlb) : Prop :=
  t ∈ s.tlbList ∧ t.pid ≠ 0 ∧ enTlb t.nombre s' = false ∧
    ∃ m ∈ s'.marcosList, m.marco = t.marco ∧ (m.pid, m.pagina) = t.nombre

instance (s s' : Estado) (t : Tlb) : Decidable (Reemplazada s s' t) :=
  inferInstanceAs (Decidable (_ ∧ _ ∧ _ ∧ _))

theorem mem_ocupadas {t : Tlb} : t ∈ ocupadas s ↔ t ∈ s.tlbList ∧ t.pid ≠ 0 := by
  simp [ocupadas]

theorem enTlb_iff : enTlb u s = true ↔ ∃ t ∈ s.tlbList, t.nombre = u := by
  simp [enTlb]

theorem nombre_ne_of_enTlb (h : enTlb u s = false) {t : Tlb} (ht : t ∈ s.tlbList) :
    t.nombre ≠ u := by
  intro heq
  have hin := enTlb_iff.2 ⟨t, ht, heq⟩
  rw [h] at hin
  cases hin

theorem paginaIsInTlb_eq_enTlb (h : (s.descriptor p).nombre = u) :
    paginaIsInTlb p s = enTlb u s := by
  subst h
  unfold paginaIsInTlb enTlb
  congr 1
  funext t
  simp [esEntradaDe, Tlb.nombre, Pagina.nombre]

end Definiciones

section Eleccion

variable {e : Tlb} {tlb l : List Tlb} {puntero fifo : ℕ}

/-- The entry that is taken out, with the list and the pointer that are left: the first
empty one, or else the one that the policy chooses. -/
inductive Eleccion (E : Entorno) (tlb : List Tlb) (puntero : ℕ) (e : Tlb) :
    List Tlb → ℕ → Prop
  | libre (hlibre : tlb.find? (fun t => t.pid = 0) = some e) : Eleccion E tlb puntero e tlb puntero
  | lru {l : List Tlb} (halgoritmo : E.config.algoritmoReemplazoTlb = .lru)
      (hllena : ∀ t ∈ tlb, t.pid ≠ 0) (hperm : l.Perm tlb) (hmem : e ∈ l)
      (hminima : ∀ t ∈ tlb, e.timestamp ≤ t.timestamp) : Eleccion E tlb puntero e l puntero
  | fifo (halgoritmo : E.config.algoritmoReemplazoTlb = .fifo) (hllena : ∀ t ∈ tlb, t.pid ≠ 0)
      (hget : listGet (ordenarPor E (fun t : Tlb => (t.entrada : ℤ)) tlb) puntero = some e) :
      Eleccion E tlb puntero e (ordenarPor E (fun t : Tlb => (t.entrada : ℤ)) tlb)
        (if E.config.cantidaEntradasTlb < puntero + 1 + 1 then 0 else puntero + 1)

theorem llena_of_not_free (h : ¬ anyTlbItemIsFree s = true) : ∀ t ∈ s.tlbList, t.pid ≠ 0 := by
  intro t ht h0
  apply h
  exact List.any_eq_true.2 ⟨t, ht, decide_eq_true h0⟩

theorem listGet_zero {α : Type} {l : List α} {a : α} (h : listGet l 0 = some a) :
    ∃ resto, l = a :: resto := by
  cases l with
  | nil => cases h
  | cons b resto =>
    cases h
    exact ⟨resto, rfl⟩

theorem proximaPaginaASacarTlb_eleccion (h : proximaPaginaASacarTlb E s = .ok (e, s')) :
    ∃ l fifo, s' = { s with tlbList := l, tlbFifoPointer := fifo } ∧
      Eleccion E s.tlbList s.tlbFifoPointer e l fifo := by
  unfold proximaPaginaASacarTlb at h
  split at h
  · next hlru =>
    unfold proximaPaginaASacarTlbByLru at h
    split at h
    · split at h
      · cases h
      · next hu =>
        cases h
        exact ⟨_, _, rfl, .libre hu⟩
    · next hfree =>
      dsimp only at h
      split at h
      · cases h
      · next hu =>
        cases h
        obtain ⟨resto, hresto⟩ := listGet_zero hu
        have hperm := (mem_ordenarPor (E := E) (fun t : Tlb => (t.timestamp : ℤ)) _).trans
          (mem_ordenarPor (E := E) (fun t : Tlb => (t.entrada : ℤ)) s.tlbList)
        refine ⟨_, _, rfl, .lru hlru (llena_of_not_free hfree) hperm (mem_of_listGet hu) ?_⟩
        intro t ht
        have hsorted := E.listSort_sorted (fun t : Tlb => (t.timestamp : ℤ))
          (ordenarPor E (fun t : Tlb => (t.entrada : ℤ)) s.tlbList)
        have hmem := hperm.mem_iff.2 ht
        rw [show E.listSort _ _ = _ from hresto] at hsorted
        rw [hresto] at hmem
        rcases List.mem_cons.1 hmem with rfl | hmem
        · exact le_rfl
        · exact_mod_cast List.rel_of_pairwise_cons hsorted hmem
  · next hfifo =>
    unfold proximaPaginaASacarTlbByFifo at h
    split at h
    · split at h
      · cases h
      · next hu =>
        cases h
        exact ⟨_, _, rfl, .libre hu⟩
    · next hfree =>
      dsimp only at h
      split at h
      · cases h
      · next hu =>
        cases h
        exact ⟨_, _, rfl, .fifo hfifo (llena_of_not_free hfree) hu⟩

theorem Eleccion.perm (h : Eleccion E tlb puntero e l fifo) : l.Perm tlb := by
  cases h with
  | libre hlibre => exact List.Perm.refl _
  | lru _ _ hperm _ _ => exact hperm
  | fifo _ _ _ => exact mem_ordenarPor _ _

theorem Eleccion.mem (h : Eleccion E tlb puntero e l fifo) : e ∈ l := by
  cases h with
  | libre hlibre => exact List.mem_of_find?_eq_some hlibre
  | lru _ _ _ hmem _ => exact hmem
  | fifo _ _ hget => exact mem_of_listGet hget

theorem Eleccion.libre_o_llena (h : Eleccion E tlb puntero e l fifo) :
    l.find? (fun t => t.pid = 0) = some e ∨ ∀ t ∈ l, t.pid ≠ 0 := by
  have hperm := h.perm
  cases h with
  | libre hlibre => exact Or.inl hlibre
  | lru _ hllena _ _ _ => exact Or.inr fun t ht => hllena t (hperm.mem_iff.1 ht)
  | fifo _ hllena _ => exact Or.inr fun t ht => hllena t (hperm.mem_iff.1 ht)

end Eleccion

section Carga

variable {e : Tlb} {l : List Tlb}

def cargar (entrada : ℕ) (u : ℤ × ℤ) (marco : ℤ) (ts : ℕ) (l : List Tlb) : List Tlb :=
  l.map fun t => if t.entrada = entrada then
    { t with pid := u.1, pagina := u.2, marco := marco, timestamp := ts } else t

theorem mem_cargar {entrada ts : ℕ} {marco : ℤ} {t : Tlb} (ht : t ∈ cargar entrada u marco ts l) :
    t = ⟨entrada, u.1, u.2, marco, ts⟩ ∨ t ∈ l ∧ t.entrada ≠ entrada := by
  obtain ⟨w, hw, rfl⟩ := List.mem_map.1 ht
  by_cases h : w.entrada = entrada
  · rw [if_pos h, ← h]
    exact Or.inl rfl
  · rw [if_neg h]
    exact Or.inr ⟨hw, h⟩

theorem mem_cargar_of_ne {entrada ts : ℕ} {marco : ℤ} {t : Tlb} (ht : t ∈ l)
    (hne : t.entrada ≠ entrada) : t ∈ cargar entrada u marco ts l :=
  List.mem_map.2 ⟨t, ht, if_neg hne⟩

theorem mem_cargar_self {entrada ts : ℕ} {marco : ℤ} {t : Tlb} (ht : t ∈ l)
    (heq : t.entrada = entrada) :
    (⟨entrada, u.1, u.2, marco, ts⟩ : Tlb) ∈ cargar entrada u marco ts l := by
  refine List.mem_map.2 ⟨t, ht, ?_⟩
  rw [if_pos heq, ← heq]

theorem entradas_cargar (entrada : ℕ) (marco : ℤ) (ts : ℕ) (l : List Tlb) :
    (cargar entrada u marco ts l).map Tlb.entrada = l.map Tlb.entrada := by
  apply entradas_map
  exact fun _ => rfl

theorem find?_vaciar (hentradas : (l.map Tlb.entrada).Nodup) (hmem : e ∈ l)
    (h : l.find? (fun t => t.pid = 0) = some e ∨ ∀ t ∈ l, t.pid ≠ 0) :
    (l.map fun t => if t.entrada = e.entrada then t.vacia else t).find? (fun t => t.pid = 0) =
      some e.vacia := by
  induction l with
  | nil => cases hmem
  | cons t l ih =>
    rw [List.map_cons]
    by_cases heq : t.entrada = e.entrada
    · obtain rfl := List.inj_on_of_nodup_map hentradas List.mem_cons_self hmem heq
      rw [if_pos rfl, List.find?_cons_of_pos (by simp [Tlb.vacia])]
    · have hne : t ≠ e := fun h' => heq (congrArg Tlb.entrada h')
      have hpid : t.pid ≠ 0 := by
        rcases h with hfind | hllena
        · intro h0
          rw [List.find?_cons_of_pos (by simpa using h0)] at hfind
          exact hne (Option.some.inj hfind)
        · exact hllena t List.mem_cons_self
      rw [if_neg heq, List.find?_cons_of_neg (by simpa using hpid)]
      apply ih (List.nodup_cons.1 hentradas).2
      · exact (List.mem_cons.1 hmem).resolve_left (Ne.symm hne)
      · rcases h with hfind | hllena
        · rw [List.find?_cons_of_neg (by simpa using hpid)] at hfind
          exact Or.inl hfind
        · exact Or.inr fun w hw => hllena w (List.mem_cons_of_mem _ hw)

/-- A page whose frame has no entry is loaded into the entry that has been chosen. -/
theorem actualizarTlb_carga (hentradas : (s.tlbList.map Tlb.entrada).Nodup) (hk : k ≠ -1)
    (hlibre : ∀ t ∈ s.tlbList, t.marco ≠ k) (h : actualizarTlb E p k s = .ok s') :
    ∃ e l fifo, Eleccion E s.tlbList s.tlbFifoPointer e l fifo ∧
      s.contadorTimestampTlb + 1 < 2 ^ 31 ∧ s' = { s with
        tlbList := cargar e.entrada (s.descriptor p).nombre k s.contadorTimestampTlb l
        tlbFifoPointer := fifo
        contadorTimestampTlb := s.contadorTimestampTlb + 1 } := by
  have hno : isMarcoInTlb k s = false := by
    simpa [isMarcoInTlb] using hlibre
  unfold actualizarTlb at h
  rw [if_neg hk, hno] at h
  obtain ⟨⟨e, s₁⟩, helegir, h⟩ := bind_eq_ok.1 h
  obtain ⟨l, fifo, rfl, heleccion⟩ := proximaPaginaASacarTlb_eleccion helegir
  have hnodup : (l.map Tlb.entrada).Nodup := (heleccion.perm.map Tlb.entrada).nodup_iff.2 hentradas
  have hfind : getNextFreeTlbItem (vaciarPaginaTlb e.entrada
      { s with tlbList := l, tlbFifoPointer := fifo }) = some e.vacia :=
    find?_vaciar hnodup heleccion.mem heleccion.libre_o_llena
  unfold cargarPaginaPaginaTlb at h
  dsimp only at h
  rw [hfind] at h
  obtain ⟨⟨ts, s₂⟩, hts, h⟩ := bind_eq_ok.1 h
  obtain ⟨c, hc, hts⟩ := bind_eq_ok.1 hts
  obtain ⟨rfl, hlt⟩ := incrementar_cases hc
  cases hts
  cases h
  refine ⟨e, l, fifo, heleccion, hlt, ?_⟩
  simp only [setTlb, vaciarPaginaTlb, List.map_map, cargar]
  congr 1
  apply List.map_congr_left
  intro t _
  simp only [Function.comp_apply]
  by_cases heq : t.entrada = e.entrada
  · rw [if_pos heq, if_pos heq]
    exact if_pos heq
  · rw [if_neg heq, if_neg heq]
    exact if_neg heq

end Carga

section Sellos

variable {l : List Tlb}

theorem sellar_sellar (entrada ts ts' : ℕ) (l : List Tlb) :
    sellar entrada ts' (sellar entrada ts l) = sellar entrada ts' l := by
  simp only [sellar, List.map_map]
  apply List.map_congr_left
  intro t _
  simp only [Function.comp_apply]
  by_cases heq : t.entrada = entrada
  · rw [if_pos heq, if_pos heq, if_pos heq]
  · rw [if_neg heq, if_neg heq]

theorem entradas_sellar (entrada ts : ℕ) (l : List Tlb) :
    (sellar entrada ts l).map Tlb.entrada = l.map Tlb.entrada := by
  apply entradas_map
  exact fun _ => rfl

theorem nombres_sellar (entrada ts : ℕ) (l : List Tlb) :
    (sellar entrada ts l).map Tlb.nombre = l.map Tlb.nombre := by
  simp only [sellar, List.map_map]
  apply List.map_congr_left
  intro t _
  simp only [Function.comp_apply]
  split <;> rfl

theorem mem_sellar {entrada ts : ℕ} {t : Tlb} (ht : t ∈ sellar entrada ts l) :
    (∃ w ∈ l, w.entrada = entrada ∧ t = { w with timestamp := ts }) ∨
      t ∈ l ∧ t.entrada ≠ entrada := by
  obtain ⟨w, hw, rfl⟩ := List.mem_map.1 ht
  by_cases h : w.entrada = entrada
  · rw [if_pos h]
    exact Or.inl ⟨w, hw, h, rfl⟩
  · rw [if_neg h]
    exact Or.inr ⟨hw, h⟩

theorem getTlbItem_sellar {entrada ts : ℕ} {t t' : Tlb} (ht : getTlbItem p s = some t)
    (ht' : getTlbItem p s' = some t') (htlb : s'.tlbList = sellar entrada ts s.tlbList)
    (hdescriptor : s'.descriptor = s.descriptor) : t'.entrada = t.entrada := by
  unfold getTlbItem at ht ht'
  rw [htlb, esEntradaDe_congr hdescriptor, sellar, List.find?_map] at ht'
  have hde : esEntradaDe p s ∘
      (fun t : Tlb => if t.entrada = entrada then { t with timestamp := ts } else t) =
      esEntradaDe p s := by
    funext t
    simp only [Function.comp_apply, esEntradaDe]
    split <;> rfl
  rw [hde, ht] at ht'
  obtain rfl := Option.some.inj ht'
  dsimp only
  split <;> rfl

end Sellos

section PorCargar

/-- At most the entries of frames that have been given to the page have been emptied. -/
structure PorCargar (u : ℤ × ℤ) (marcos : List Marco) (s s₁ : Estado) : Prop where
  tlb : ∃ g : Tlb → Tlb, s₁.tlbList = s.tlbList.map g ∧ ∀ t ∈ s.tlbList,
    g t = t ∨ g t = t.vacia ∧ ∀ m ∈ marcos, m.marco = t.marco → (m.pid, m.pagina) = u
  fifo : s₁.tlbFifoPointer = s.tlbFifoPointer
  contadorTlb : s₁.contadorTimestampTlb = s.contadorTimestampTlb

theorem PorCargar.of_eq {marcos : List Marco} (htlb : s₁.tlbList = s.tlbList)
    (hfifo : s₁.tlbFifoPointer = s.tlbFifoPointer)
    (hcontador : s₁.contadorTimestampTlb = s.contadorTimestampTlb) :
    PorCargar u marcos s s₁ :=
  ⟨⟨id, by rw [htlb, List.map_id], fun _ _ => Or.inl rfl⟩, hfifo, hcontador⟩

theorem sinMarco_eq_map {l : List Tlb} (hentradas : (l.map Tlb.entrada).Nodup) (marco : ℤ) :
    ∃ g : Tlb → Tlb, sinMarco marco l = l.map g ∧
      ∀ t ∈ l, g t = t ∨ g t = t.vacia ∧ t.marco = marco := by
  unfold sinMarco
  cases hfind : l.find? fun t => decide (t.marco = marco) with
  | none => exact ⟨id, (List.map_id l).symm, fun _ _ => Or.inl rfl⟩
  | some w =>
    refine ⟨fun t => if t.entrada = w.entrada then t.vacia else t, rfl, fun t ht => ?_⟩
    by_cases heq : t.entrada = w.entrada
    · have hmem := List.mem_of_find?_eq_some hfind
      obtain rfl := List.inj_on_of_nodup_map hentradas ht hmem heq
      exact Or.inr ⟨if_pos heq, by simpa using List.find?_some hfind⟩
    · exact Or.inl (if_neg heq)

theorem PorCargar.of_desalojo {marcos : List Marco} {marco : ℤ}
    (hentradas : (s.tlbList.map Tlb.entrada).Nodup)
    (htlb : s₁.tlbList = sinMarco marco s.tlbList)
    (hfifo : s₁.tlbFifoPointer = s.tlbFifoPointer)
    (hcontador : s₁.contadorTimestampTlb = s.contadorTimestampTlb)
    (hmarcos : ∀ m ∈ marcos, m.marco = marco → (m.pid, m.pagina) = u) :
    PorCargar u marcos s s₁ := by
  obtain ⟨g, hg, hcases⟩ := sinMarco_eq_map hentradas marco
  refine ⟨⟨g, htlb.trans hg, fun t ht => ?_⟩, hfifo, hcontador⟩
  rcases hcases t ht with h | ⟨h, hmarco⟩
  · exact Or.inl h
  · exact Or.inr ⟨h, fun m hm heq => hmarcos m hm (heq.trans hmarco)⟩

theorem PorCargar.entradas {marcos : List Marco} (h : PorCargar u marcos s s₁) :
    s₁.tlbList.map Tlb.entrada = s.tlbList.map Tlb.entrada := by
  obtain ⟨g, hg, hcases⟩ := h.tlb
  rw [hg, List.map_map]
  apply List.map_congr_left
  intro t ht
  rw [Function.comp_apply]
  rcases hcases t ht with heq | ⟨heq, -⟩
  · rw [heq]
  · rw [heq, Tlb.vacia]

theorem PorCargar.mem {marcos : List Marco} (h : PorCargar u marcos s s₁) {t : Tlb}
    (ht : t ∈ s₁.tlbList) (hpid : t.pid ≠ 0) : t ∈ s.tlbList := by
  obtain ⟨g, hg, hcases⟩ := h.tlb
  rw [hg] at ht
  obtain ⟨w, hw, rfl⟩ := List.mem_map.1 ht
  rcases hcases w hw with heq | ⟨heq, -⟩
  · rw [heq]
    exact hw
  · rw [heq] at hpid
    exact absurd rfl hpid

/-- An entry whose page is still in its frame has not been emptied for another page. -/
theorem PorCargar.queda {marcos : List Marco} (h : PorCargar u marcos s s₁) {t : Tlb}
    (ht : t ∈ s.tlbList) (hne : t.nombre ≠ u)
    (hen : ∃ m ∈ marcos, m.marco = t.marco ∧ (m.pid, m.pagina) = t.nombre) : t ∈ s₁.tlbList := by
  obtain ⟨g, hg, hcases⟩ := h.tlb
  rw [hg]
  refine List.mem_map.2 ⟨t, ht, ?_⟩
  rcases hcases t ht with heq | ⟨-, hmarcos⟩
  · exact heq
  · obtain ⟨m, hm, hmarco, hnombre⟩ := hen
    exact absurd (hnombre.symm.trans (hmarcos m hm hmarco)) hne

theorem PorCargar.tlb_eq {marcos : List Marco} (h : PorCargar u marcos s s₁)
    (hllena : ∀ t ∈ s₁.tlbList, t.pid ≠ 0) : s₁.tlbList = s.tlbList := by
  obtain ⟨g, hg, hcases⟩ := h.tlb
  have hmap : s.tlbList.map g = s.tlbList.map id := by
    apply List.map_congr_left
    intro t ht
    rcases hcases t ht with heq | ⟨heq, -⟩
    · exact heq
    · have hpid := hllena (g t) (hg ▸ List.mem_map_of_mem ht)
      rw [heq] at hpid
      exact absurd rfl hpid
  rw [hg, hmap, List.map_id]

end PorCargar

section Marcha

/-- What the module keeps in any run whose carpinchos have positive pids. -/
structure Marcha (E : Entorno) (s : Estado) : Prop extends LibroNumerado s where
  positivos : ∀ c ∈ s.carpinchosList, 0 < c.pid
  entradas : (s.tlbList.map Tlb.entrada).Perm (List.range E.config.cantidaEntradasTlb)

theorem Marcha.nodup (h : Marcha E s) : (s.tlbList.map Tlb.entrada).Nodup :=
  h.entradas.nodup_iff.2 List.nodup_range

theorem Marcha.marco_ne (h : Marcha E s) {t : Tlb} (ht : t ∈ s.tlbList) (hpid : t.pid ≠ 0) :
    t.marco ≠ -1 :=
  fun hmarco => hpid (h.tablas.vacias t ht hmarco).1

theorem Marcha.sin_entrada (h : Marcha E s) {c : Carpincho} (hc : c ∈ s.carpinchosList) :
    enTlb (c.pid, ((c.paginas.length + 1 : ℕ) : ℤ)) s = false := by
  rw [Bool.eq_false_iff]
  intro hin
  obtain ⟨t, ht, hnombre⟩ := enTlb_iff.1 hin
  obtain ⟨hpid, hpagina⟩ := Prod.mk.inj hnombre
  have hpos := h.positivos c hc
  have hmarco : t.marco ≠ -1 := h.marco_ne ht (by omega)
  obtain ⟨d, hd, hdpid, q, hq, hname⟩ := h.tablas.nombre_entrada ht hmarco
  obtain rfl := h.eq_of_pid hd hc (hdpid.trans hpid)
  obtain ⟨j, hj⟩ := List.mem_iff_getElem?.1 hq
  obtain ⟨hlt, -⟩ := List.getElem?_eq_some_iff.1 hj
  have hnumero := congrArg Prod.snd ((h.numeradas.numeros d hd j q hj).symm.trans hname)
  rw [hpagina] at hnumero
  dsimp only at hnumero
  omega

/-- What using a page does to the TLB; `antes` is the state before a load. -/
inductive EfectoTlb (E : Entorno) (antes : Option Estado) (u : ℤ × ℤ) (s s' : Estado) : Prop
  | acierto {t : Tlb} (ht : t ∈ s.tlbList) (hnombre : t.nombre = u)
      (htlb : E.config.algoritmoReemplazoTlb = .fifo ∧ s'.tlbList = s.tlbList ∨
        E.config.algoritmoReemplazoTlb = .lru ∧
          s'.tlbList = sellar t.entrada (s.contadorTimestamp + 1) s.tlbList)
      (hfifo : s'.tlbFifoPointer = s.tlbFifoPointer)
  | fallo {s₁ : Estado} (hno : enTlb u s = false) (hpor : PorCargar u s'.marcosList s s₁)
      (htlb : s'.tlbList = s₁.tlbList) (hfifo : s'.tlbFifoPointer = s.tlbFifoPointer)
  | carga {s₁ : Estado} {e : Tlb} {l : List Tlb} {marco : ℤ} (hno : enTlb u s = false)
      (hantes : antes = some s₁) (hpor : PorCargar u s'.marcosList s s₁)
      (heleccion : Eleccion E s₁.tlbList s₁.tlbFifoPointer e l s'.tlbFifoPointer)
      (htlb : s'.tlbList = cargar e.entrada u marco s.contadorTimestampTlb l)

theorem EfectoTlb.entradas {antes : Option Estado} (h : EfectoTlb E antes u s s') :
    (s'.tlbList.map Tlb.entrada).Perm (s.tlbList.map Tlb.entrada) := by
  cases h with
  | acierto ht hnombre htlb hfifo =>
    rcases htlb with ⟨-, htlb⟩ | ⟨-, htlb⟩
    · rw [htlb]
    · rw [htlb, entradas_sellar]
  | fallo hno hpor htlb hfifo => rw [htlb, hpor.entradas]
  | carga hno hantes hpor heleccion htlb =>
    rw [htlb, entradas_cargar, ← hpor.entradas]
    exact heleccion.perm.map Tlb.entrada

theorem EfectoTlb.congr {antes : Option Estado} {s'' : Estado} (h : EfectoTlb E antes u s s')
    (htlb : s''.tlbList = s'.tlbList) (hfifo : s''.tlbFifoPointer = s'.tlbFifoPointer)
    (hmarcos : s''.marcosList = s'.marcosList) : EfectoTlb E antes u s s'' := by
  cases h with
  | acierto ht hnombre hsella hmismo =>
    exact .acierto ht hnombre (htlb ▸ hsella) (hfifo.trans hmismo)
  | fallo hno hpor hqueda hmismo =>
    exact .fallo hno (hmarcos ▸ hpor) (htlb.trans hqueda) (hfifo.trans hmismo)
  | carga hno hantes hpor heleccion hcarga =>
    exact .carga hno hantes (hmarcos ▸ hpor) (hfifo ▸ heleccion) (htlb.trans hcarga)

end Marcha

section Acceso

theorem obtenerMarcoSinTlb_porCargar (hentradas : (s.tlbList.map Tlb.entrada).Nodup)
    (hs : obtenerMarcoSinTlb E p s = .ok (k, s')) :
    PorCargar (s.descriptor p).nombre s'.marcosList s s' := by
  unfold obtenerMarcoSinTlb at hs
  split at hs
  · obtain ⟨s₁, hmiss, hs⟩ := bind_eq_ok.1 hs
    obtain ⟨c, -, rfl⟩ := tlbMiss_cases hmiss
    cases hs
    exact .of_eq rfl rfl rfl
  · obtain ⟨s₁, hhit, hs⟩ := bind_eq_ok.1 hs
    obtain ⟨c, -, rfl⟩ := tlbHit_cases hhit
    obtain ⟨hsolo, ⟨-, htlb, -⟩ | ⟨marco, -, hdesalojo⟩⟩ := swampearPagina_cases hs
    · exact .of_eq htlb hsolo.fifo hsolo.contadorTlb
    · apply PorCargar.of_desalojo hentradas hdesalojo.tlb hsolo.fifo hsolo.contadorTlb
      intro m hm hmarco
      obtain ⟨-, hpid, hpagina⟩ := hdesalojo.ocupado m hm hmarco
      rw [hpid, hpagina]
      rfl

theorem efecto_carga {antes : Option Estado} {s₂ : Estado}
    (hentradas : (s.tlbList.map Tlb.entrada).Nodup) (hno : enTlb u s = false)
    (hpor : PorCargar u s₂.marcosList s s₁) (htlb : s₂.tlbList = s₁.tlbList)
    (hfifo : s₂.tlbFifoPointer = s₁.tlbFifoPointer)
    (hcontador : s₂.contadorTimestampTlb = s₁.contadorTimestampTlb)
    (hnombre : (s₂.descriptor p).nombre = u) (hlibre : k ≠ -1 → ∀ t ∈ s₂.tlbList, t.marco ≠ k)
    (hantes : k ≠ -1 → antes = some s₁) (hs : actualizarTlb E p k s₂ = .ok s') :
    EfectoTlb E antes u s s' := by
  by_cases hk : k = -1
  · unfold actualizarTlb at hs
    rw [if_pos hk] at hs
    cases hs
    exact .fallo hno hpor htlb (hfifo.trans hpor.fifo)
  · rw [← hpor.entradas, ← htlb] at hentradas
    obtain ⟨e, l, fifo, heleccion, -, rfl⟩ := actualizarTlb_carga hentradas hk (hlibre hk) hs
    rw [htlb, hfifo] at heleccion
    rw [hnombre, hcontador, hpor.contadorTlb]
    exact .carga hno (hantes hk) hpor heleccion rfl

/-- A hit stamps the entry of the page twice, with stamps of the frames. -/
theorem efecto_acierto {antes : Option Estado} {s₂ s₃ : Estado} (hin : paginaIsInTlb p s = true)
    (hrefrescar : refrescarTlb E p s = .ok s₁) (hhit : tlbHit p s₁ = .ok s₂)
    (hrefrescar' : refrescarTlb E p s₂ = .ok s₃) :
    EfectoTlb E antes (s.descriptor p).nombre s s₃ := by
  obtain ⟨t, hfind, ht, hpid, hpagina⟩ := getTlbItem_some hin
  have hnombre : t.nombre = (s.descriptor p).nombre := Prod.ext hpid hpagina
  obtain ⟨c, -, rfl⟩ := tlbHit_cases hhit
  rcases refrescarTlb_cases hrefrescar with ⟨hfifo, rfl⟩ | ⟨hlru, w, hw, rfl⟩
  · rcases refrescarTlb_cases hrefrescar' with ⟨-, rfl⟩ | ⟨hlru, -⟩
    · exact .acierto ht hnombre (Or.inl ⟨hfifo, rfl⟩) rfl
    · rw [hfifo] at hlru
      cases hlru
  · obtain rfl := Option.some.inj (hfind.symm.trans hw)
    rcases refrescarTlb_cases hrefrescar' with ⟨hfifo, -⟩ | ⟨-, w', hw', rfl⟩
    · rw [hlru] at hfifo
      cases hfifo
    · have hentrada : w'.entrada = t.entrada := getTlbItem_sellar hfind hw' rfl rfl
      refine .acierto ht hnombre (Or.inr ⟨hlru, ?_⟩) rfl
      dsimp only [setCarpincho]
      rw [hentrada, sellar_sellar]

theorem Marcha.accede {antes : Option Estado} (h : Marcha E s) {c : Carpincho}
    (hc : c ∈ s.carpinchosList) (hp : p ∈ c.paginas)
    (hantes : ∀ k s₁, paginaIsInTlb p s = false → obtenerMarcoSinTlb E p s = .ok (k, s₁) →
      k ≠ -1 → antes = some s₁)
    (hs : Accede E p s s') : EfectoTlb E antes (s.descriptor p).nombre s s' := by
  obtain ⟨hV, hpagina⟩ := h.paginaDe hc hp
  obtain ⟨marco, s₁, cache, desc, ts, htraer, rfl, -⟩ := hs.traer
  obtain ⟨s₂, k, s₃, desc', hrefrescar, hobtener, rfl, -⟩ := traerPagina_cases htraer
  have hefecto : EfectoTlb E antes (s.descriptor p).nombre s s₃ := by
    split at hrefrescar
    · next hin =>
      have hin₂ : paginaIsInTlb p s₂ = true := (paginaIsInTlb_refrescarTlb hrefrescar).trans hin
      rcases obtenerMarcoParaPagina_cases (h.huella.refrescarTlb hrefrescar) hpagina hobtener with
        ⟨-, s₄, hhit, hrefrescar'⟩ | ⟨hno, -⟩
      · exact efecto_acierto hin hrefrescar hhit hrefrescar'
      · rw [hin₂] at hno
        cases hno
    · next hno =>
      cases hrefrescar
      rcases obtenerMarcoParaPagina_cases h.huella hpagina hobtener with
        ⟨hin, -⟩ | ⟨-, s₄, hmarco, hactualizar⟩
      · exact absurd hin hno
      · have hno' := Bool.eq_false_iff.2 hno
        obtain ⟨hh, htomado⟩ := h.huella.obtenerMarcoSinTlb hV hno' hmarco
        apply efecto_carga h.nodup (paginaIsInTlb_eq_enTlb rfl ▸ hno')
          (obtenerMarcoSinTlb_porCargar h.nodup hmarco) rfl rfl rfl (hh.nombres p) _
          (hantes k s₄ hno' hmarco) hactualizar
        intro hk t ht heq
        exact (htomado hk).libre t ht (heq ▸ hk) heq
  exact hefecto.congr rfl rfl rfl

end Acceso

section Creacion

variable {c : Carpincho}

theorem antesDeCrear_eq {pid : ℤ} {beforeValue : Bool} (hc : getCarpincho pid s = some c)
    (hbefore : canCarpinchoAddMarcoToPage E c { s with proximoPtr := s.proximoPtr + 1 } =
      .ok beforeValue)
    (hmarco : marcoParaPaginaNueva E beforeValue c.pid (c.paginas.length + 1 : ℕ)
      (conDescriptor c s) = .ok (k, s₁)) : antesDeCrear E pid s = some s₁ := by
  unfold antesDeCrear
  simp only [hc, hbefore, hmarco]

theorem creacion_porCargar {beforeValue : Bool} {marcos : List Marco}
    (hentradas : (s.tlbList.map Tlb.entrada).Nodup)
    (hmarcos : ∀ m ∈ marcos, m.marco = k → (m.pid, m.pagina) = u)
    (hs : marcoParaPaginaNueva E beforeValue u.1 u.2 (conDescriptor c s) = .ok (k, s₁)) :
    PorCargar u marcos s s₁ := by
  obtain ⟨hsolo, rfl | hdesalojo⟩ := marcoParaPaginaNueva_cases hs
  · exact .of_eq rfl rfl rfl
  · exact .of_desalojo hentradas hdesalojo.tlb hsolo.fifo hsolo.contadorTlb hmarcos

theorem Marcha.porCrear {beforeValue : Bool} {instancia : Marco} (h : Marcha E s)
    (hmarco : marcoParaPaginaNueva E beforeValue c.pid (c.paginas.length + 1 : ℕ)
      (conDescriptor c s) = .ok (k, s₁))
    (hinstancia : getMarcoByMarcoNumber k s₁ = some instancia) :
    PorCargar (c.pid, ((c.paginas.length + 1 : ℕ) : ℤ))
        (conMarco s.proximoPtr k instancia.marco c.pid (c.paginas.length + 1 : ℕ) s₁).marcosList
        s s₁ ∧
      ((conMarco s.proximoPtr k instancia.marco c.pid (c.paginas.length + 1 : ℕ) s₁).descriptor
        s.proximoPtr).nombre = (c.pid, ((c.paginas.length + 1 : ℕ) : ℤ)) ∧
      instancia.marco ≠ -1 ∧ ∀ t ∈ s₁.tlbList, t.marco ≠ instancia.marco := by
  have hhuella : Huella (fun pid' pagina => PaginaDe s pid' pagina ∨
      pid' = c.pid ∧ pagina = (c.paginas.length + 1 : ℕ)) (nombresCon c s) (conDescriptor c s) :=
    ⟨fun _ => rfl, h.tablas.mono fun _ _ => Or.inl⟩
  obtain ⟨h₁, hlibre⟩ := hhuella.marcoParaPaginaNueva (Or.inr ⟨rfl, rfl⟩) hmarco
  obtain ⟨hinst, hnumero⟩ := getMarcoByMarcoNumber_some hinstancia
  have hk : instancia.marco ≠ -1 := by
    obtain ⟨i, hi⟩ := List.mem_iff_getElem?.1 hinst
    rw [h₁.tablas.numeros i _ hi]
    omega
  refine ⟨creacion_porCargar (c := c) (k := k) h.nodup ?_ hmarco, ?_, hk, ?_⟩
  · intro m hm heq
    obtain ⟨w, hw, rfl⟩ := List.mem_map.1 hm
    by_cases hwm : w.marco = instancia.marco
    · rw [if_pos hwm]
      rfl
    · rw [if_neg hwm] at heq
      exact absurd (heq.trans hnumero.symm) hwm
  · rw [← nombresCon_nuevo, ← h₁.nombres]
    simp [conMarco, setPagina, setMarco, Pagina.nombre]
  · intro t ht heq
    exact hlibre t ht (heq ▸ hk) (heq.trans hnumero)

theorem Marcha.crea {pid : ℤ} (h : Marcha E s) (hc : getCarpincho pid s = some c)
    (hs : createPagina E pid s = .ok (p, s')) :
    EfectoTlb E (antesDeCrear E pid s) (c.pid, ((c.paginas.length + 1 : ℕ) : ℤ)) s s' := by
  obtain ⟨c', beforeValue, marco, s₁, instancia, s₂, s₃, hc', rfl, hbefore, hmarco, hinstancia,
    hactualizar, hmarcar, rfl⟩ := createPagina_cases hs
  obtain rfl := Option.some.inj (hc.symm.trans hc')
  obtain ⟨desc, ts, rfl, -⟩ := marcarCreacion_cases hmarcar
  have hmem := (getCarpincho_pid hc).2
  obtain ⟨hpor, hnombre, -, hlibre⟩ := h.porCrear hmarco hinstancia
  have hefecto : EfectoTlb E (antesDeCrear E pid s)
      (c.pid, ((c.paginas.length + 1 : ℕ) : ℤ)) s s₂ :=
    efecto_carga h.nodup (h.sin_entrada hmem) hpor rfl rfl rfl hnombre (fun _ => hlibre)
      (fun _ => antesDeCrear_eq hc hbefore hmarco) hactualizar
  exact hefecto.congr rfl rfl rfl

theorem Marcha.crea_estampa {pid : ℤ} (h : Marcha E s) (hs : createPagina E pid s = .ok (p, s')) :
    s.contadorTimestampTlb + 1 < 2 ^ 31 ∧
      s'.contadorTimestampTlb = s.contadorTimestampTlb + 1 := by
  obtain ⟨c, beforeValue, marco, s₁, instancia, s₂, s₃, hc, rfl, -, hmarco, hinstancia,
    hactualizar, hmarcar, rfl⟩ := createPagina_cases hs
  obtain ⟨desc, ts, rfl, -⟩ := marcarCreacion_cases hmarcar
  obtain ⟨hpor, -, hk, hlibre⟩ := h.porCrear hmarco hinstancia
  have hnodup : (s₁.tlbList.map Tlb.entrada).Nodup := hpor.entradas ▸ h.nodup
  obtain ⟨e, l, fifo, -, hlt, rfl⟩ := actualizarTlb_carga (s := conMarco _ _ _ _ _ s₁) hnodup hk
    hlibre hactualizar
  rw [← hpor.contadorTlb]
  exact ⟨hlt, rfl⟩

end Creacion

section Ocupadas

variable {marcos : List Marco}

theorem PorCargar.viva (hpor : PorCargar u marcos s s₁) {t : Tlb} (ht : t ∈ ocupadas s₁) :
    t ∈ ocupadas s := by
  obtain ⟨hmem, hpid⟩ := mem_ocupadas.1 ht
  exact mem_ocupadas.2 ⟨hpor.mem hmem hpid, hpid⟩

theorem PorCargar.sin_entrada (hpor : PorCargar u marcos s s₁) (hu : u.1 ≠ 0)
    (hno : enTlb u s = false) : enTlb u s₁ = false := by
  rw [Bool.eq_false_iff]
  intro hin
  obtain ⟨t, ht, rfl⟩ := enTlb_iff.1 hin
  exact nombre_ne_of_enTlb hno (hpor.mem ht hu) rfl

theorem ocupadas_cargar {e a : Tlb} {l : List Tlb} {marco : ℤ} {ts : ℕ} (hno : enTlb u s = false)
    (hpor : PorCargar u marcos s s₁) (hperm : l.Perm s₁.tlbList)
    (htlb : s'.tlbList = cargar e.entrada u marco ts l) (ha : a ∈ ocupadas s') :
    a = ⟨e.entrada, u.1, u.2, marco, ts⟩ ∨
      a ∈ ocupadas s₁ ∧ a.nombre ≠ u ∧ a.entrada ≠ e.entrada := by
  obtain ⟨hmem, hpid⟩ := mem_ocupadas.1 ha
  rw [htlb] at hmem
  rcases mem_cargar hmem with heq | ⟨hl, hentrada⟩
  · exact Or.inl heq
  · have hviva := mem_ocupadas.2 ⟨hperm.mem_iff.1 hl, hpid⟩
    exact Or.inr ⟨hviva, nombre_ne_of_enTlb hno (mem_ocupadas.1 (hpor.viva hviva)).1, hentrada⟩

theorem enTlb_cargar {e : Tlb} {l : List Tlb} {marco : ℤ} {ts : ℕ} (he : e ∈ l)
    (htlb : s'.tlbList = cargar e.entrada u marco ts l) : enTlb u s' = true := by
  rw [enTlb_iff, htlb]
  exact ⟨_, mem_cargar_self he rfl, rfl⟩

end Ocupadas

section Paso

variable {op : Operacion} {o : Resultado}

theorem buscarPagina_antes {pid pagina : ℤ} (hp : buscarPagina pid pagina s = .ok p)
    (hno : paginaIsInTlb p s = false) (hs : obtenerMarcoSinTlb E p s = .ok (k, s₁))
    (hk : k ≠ -1) : antesDeTraducir E pid pagina s = some s₁ := by
  unfold antesDeTraducir
  simp only [hp, hno, hs, hk, Bool.false_eq_true, if_false]

/-- A call on a page does to the TLB what using the page does. -/
theorem Marcha.efecto (h : Marcha E s) (hs : paso E op s = .ok (o, s'))
    (hu : usoEn s op = some u) : 0 < u.1 ∧ EfectoTlb E (antesDeCargar E s op) u s s' := by
  cases op with
  | createCarpincho pid => cases hu
  | createPagina pid =>
    obtain ⟨c, hc, rfl⟩ := Option.map_eq_some_iff.1 hu
    unfold paso at hs
    dsimp only at hs
    split at hs
    · obtain ⟨⟨q, s₁⟩, hcrear, hok⟩ := bind_eq_ok.1 hs
      cases hok
      exact ⟨h.positivos c (getCarpincho_pid hc).2, h.crea hc hcrear⟩
    · cases hs
  | leerEnPagina pid pagina tamanio offset =>
    obtain rfl := Option.some.inj hu
    obtain ⟨q, hq, hs⟩ := bind_eq_ok.1 hs
    obtain ⟨⟨contenido, s₁⟩, hleer, hok⟩ := bind_eq_ok.1 hs
    cases hok
    obtain ⟨c, hc, hqc, hnombre⟩ := buscarPagina_some hq
    obtain ⟨hpid, hmem⟩ := getCarpincho_pid hc
    rw [← hnombre]
    refine ⟨?_, h.accede hmem hqc (fun _ _ => buscarPagina_antes hq) (Or.inl ⟨_, _, _, hleer⟩)⟩
    rw [hnombre, ← hpid]
    exact h.positivos c hmem
  | escribirEnPagina pid pagina buffer offset =>
    obtain rfl := Option.some.inj hu
    obtain ⟨q, hq, hs⟩ := bind_eq_ok.1 hs
    obtain ⟨⟨result, s₁⟩, hescribir, hok⟩ := bind_eq_ok.1 hs
    cases hok
    obtain ⟨c, hc, hqc, hnombre⟩ := buscarPagina_some hq
    obtain ⟨hpid, hmem⟩ := getCarpincho_pid hc
    rw [← hnombre]
    refine ⟨?_, h.accede hmem hqc (fun _ _ => buscarPagina_antes hq) (Or.inr ⟨_, _, _, hescribir⟩)⟩
    rw [hnombre, ← hpid]
    exact h.positivos c hmem

theorem usoEn_none (hs : paso E op s = .ok (o, s')) (hu : usoEn s op = none) :
    ∃ pid, op = .createCarpincho pid ∧ s' = createCarpincho pid s := by
  cases op with
  | createCarpincho pid =>
    cases hs
    exact ⟨pid, rfl, rfl⟩
  | createPagina pid =>
    have hc := Option.map_eq_none_iff.1 hu
    unfold paso at hs
    dsimp only at hs
    split at hs
    · obtain ⟨⟨q, s₁⟩, hcrear, -⟩ := bind_eq_ok.1 hs
      obtain ⟨c, hc', -⟩ := heaps_createPagina hcrear
      rw [hc] at hc'
      cases hc'
    · cases hs
  | leerEnPagina pid pagina tamanio offset => cases hu
  | escribirEnPagina pid pagina buffer offset => cases hu

theorem libro_paso (h : LibroNumerado s) (hs : paso E op s = .ok (o, s')) : LibroNumerado s' := by
  cases op with
  | createCarpincho pid =>
    cases hs
    exact h.createCarpincho pid
  | createPagina pid =>
    unfold paso at hs
    dsimp only at hs
    split at hs
    · obtain ⟨⟨q, s₁⟩, hcrear, hok⟩ := bind_eq_ok.1 hs
      cases hok
      exact h.createPagina hcrear
    · cases hs
  | leerEnPagina pid pagina tamanio offset =>
    obtain ⟨q, hq, hs⟩ := bind_eq_ok.1 hs
    obtain ⟨⟨contenido, s₁⟩, hleer, hok⟩ := bind_eq_ok.1 hs
    cases hok
    obtain ⟨c, hc, hqc, -⟩ := buscarPagina_some hq
    exact h.leerEnPagina (getCarpincho_pid hc).2 hqc hleer
  | escribirEnPagina pid pagina buffer offset =>
    obtain ⟨q, hq, hs⟩ := bind_eq_ok.1 hs
    obtain ⟨⟨result, s₁⟩, hescribir, hok⟩ := bind_eq_ok.1 hs
    cases hok
    obtain ⟨c, hc, hqc, -⟩ := buscarPagina_some hq
    exact h.escribirEnPagina (getCarpincho_pid hc).2 hqc hescribir

theorem pids_paso (hs : paso E op s = .ok (o, s')) (hu : usoEn s op = some u) :
    s'.carpinchosList.map Carpincho.pid = s.carpinchosList.map Carpincho.pid := by
  cases op with
  | createCarpincho pid => cases hu
  | createPagina pid =>
    unfold paso at hs
    dsimp only at hs
    split at hs
    · obtain ⟨⟨q, s₁⟩, hcrear, hok⟩ := bind_eq_ok.1 hs
      cases hok
      obtain ⟨c, -, -, heaps⟩ := heaps_createPagina hcrear
      exact pids_conPagina heaps
    · cases hs
  | leerEnPagina pid pagina tamanio offset =>
    obtain ⟨q, hq, hs⟩ := bind_eq_ok.1 hs
    obtain ⟨⟨contenido, s₁⟩, hleer, hok⟩ := bind_eq_ok.1 hs
    cases hok
    exact pids_of_duenio (duenio_of_heaps (heaps_leerEnPagina hleer))
  | escribirEnPagina pid pagina buffer offset =>
    obtain ⟨q, hq, hs⟩ := bind_eq_ok.1 hs
    obtain ⟨⟨result, s₁⟩, hescribir, hok⟩ := bind_eq_ok.1 hs
    cases hok
    exact pids_of_duenio (duenio_of_heaps (heaps_escribirEnPagina hescribir))

theorem tlbList_createCarpincho (pid : ℤ) : (createCarpincho pid s).tlbList = s.tlbList := by
  unfold createCarpincho
  split <;> rfl

theorem tlbFifoPointer_createCarpincho (pid : ℤ) :
    (createCarpincho pid s).tlbFifoPointer = s.tlbFifoPointer := by
  unfold createCarpincho
  split <;> rfl

theorem ocupadas_createCarpincho (pid : ℤ) : ocupadas (createCarpincho pid s) = ocupadas s := by
  rw [ocupadas, tlbList_createCarpincho, ocupadas]

theorem ocupadas_inicial (cfg : Config) (basura : ℕ → Pagina) :
    ocupadas (inicializarMemoria cfg basura) = [] := by
  rw [ocupadas, List.filter_eq_nil_iff]
  intro t ht
  obtain ⟨i, -, rfl⟩ := List.mem_map.1 ht
  simp

theorem Marcha.createCarpincho (h : Marcha E s) {pid : ℤ} (hpid : 0 < pid) :
    Marcha E (createCarpincho pid s) := by
  refine ⟨h.toLibroNumerado.createCarpincho pid, ?_, ?_⟩
  · unfold Memoria.createCarpincho
    split
    · exact h.positivos
    · intro c hc
      rcases List.mem_append.1 hc with hc | hc
      · exact h.positivos c hc
      · obtain rfl := List.mem_singleton.1 hc
        exact hpid
  · rw [tlbList_createCarpincho]
    exact h.entradas

theorem Marcha.llevada (h : Marcha E s) (hop : Nucleo.Admisible op)
    (hs : paso E op s = .ok (o, s')) : Marcha E s' := by
  cases hu : usoEn s op with
  | none =>
    obtain ⟨pid, rfl, rfl⟩ := usoEn_none hs hu
    exact h.createCarpincho hop
  | some u =>
    refine ⟨libro_paso h.toLibroNumerado hs, ?_, (h.efecto hs hu).2.entradas.trans h.entradas⟩
    intro c hc
    have hmem : c.pid ∈ s'.carpinchosList.map Carpincho.pid := List.mem_map_of_mem hc
    rw [pids_paso hs hu] at hmem
    obtain ⟨d, hd, heq⟩ := List.mem_map.1 hmem
    rw [← heq]
    exact h.positivos d hd

theorem marcha_inicial (E : Entorno) (basura : ℕ → Pagina) :
    Marcha E (inicializarMemoria E.config basura) := by
  refine ⟨libro_inicial E.config basura, fun c hc => absurd hc List.not_mem_nil, ?_⟩
  have hid : ∀ n : ℕ, ((List.range n).map fun i =>
      ({ entrada := i, pid := 0, pagina := 0, marco := -1, timestamp := i } : Tlb)).map
        Tlb.entrada = List.range n := by
    intro n
    rw [List.map_map]
    exact List.map_id _
  exact List.Perm.of_eq (hid _)

/-- An entry is replaced only when none is empty, and it is the one that the policy chooses. -/
theorem Marcha.reemplazada_efecto (h : Marcha E s) {t : Tlb} (ht : Reemplazada s s' t)
    {antes : Option Estado} (hefecto : EfectoTlb E antes u s s') :
    (∀ w ∈ s.tlbList, w.pid ≠ 0) ∧
      ∃ l, Eleccion E s.tlbList s.tlbFifoPointer t l s'.tlbFifoPointer := by
  obtain ⟨hmem, hpid, hsale, hen⟩ := ht
  cases hefecto with
  | acierto hw hnombre htlb hfifo =>
    have hmap : s'.tlbList.map Tlb.nombre = s.tlbList.map Tlb.nombre := by
      rcases htlb with ⟨-, htlb⟩ | ⟨-, htlb⟩
      · rw [htlb]
      · rw [htlb, nombres_sellar]
    have hqueda : t.nombre ∈ s'.tlbList.map Tlb.nombre := hmap ▸ List.mem_map_of_mem hmem
    obtain ⟨w', hw', heq⟩ := List.mem_map.1 hqueda
    exact absurd heq (nombre_ne_of_enTlb hsale hw')
  | fallo hno hpor htlb hfifo =>
    have hqueda := hpor.queda hmem (nombre_ne_of_enTlb hno hmem) hen
    rw [← htlb] at hqueda
    exact absurd rfl (nombre_ne_of_enTlb hsale hqueda)
  | @carga s₁ e l marco hno hantes hpor heleccion htlb =>
    have hqueda := hpor.queda hmem (nombre_ne_of_enTlb hno hmem) hen
    have hl := heleccion.perm.mem_iff.2 hqueda
    have hentrada : t.entrada = e.entrada := by
      by_contra hne
      refine absurd rfl (nombre_ne_of_enTlb hsale (t := t) ?_)
      rw [htlb]
      exact mem_cargar_of_ne hl hne
    have hnodup : (l.map Tlb.entrada).Nodup := by
      rw [(heleccion.perm.map Tlb.entrada).nodup_iff, hpor.entradas]
      exact h.nodup
    obtain rfl : t = e := List.inj_on_of_nodup_map hnodup hl heleccion.mem hentrada
    have hllena : ∀ w ∈ s₁.tlbList, w.pid ≠ 0 := by
      rcases heleccion.libre_o_llena with hlibre | hllena
      · exact absurd (by simpa using List.find?_some hlibre) hpid
      · exact fun w hw => hllena w (heleccion.perm.mem_iff.2 hw)
    have heq := hpor.tlb_eq hllena
    rw [heq, hpor.fifo] at heleccion
    exact ⟨fun w hw => hllena w (heq ▸ hw), l, heleccion⟩

theorem Marcha.reemplazada (h : Marcha E s) (hs : paso E op s = .ok (o, s')) {t : Tlb}
    (ht : Reemplazada s s' t) :
    (∀ w ∈ s.tlbList, w.pid ≠ 0) ∧
      ∃ l, Eleccion E s.tlbList s.tlbFifoPointer t l s'.tlbFifoPointer := by
  cases hu : usoEn s op with
  | none =>
    obtain ⟨pid, rfl, rfl⟩ := usoEn_none hs hu
    obtain ⟨hmem, -, hsale, -⟩ := ht
    rw [← tlbList_createCarpincho pid] at hmem
    exact absurd rfl (nombre_ne_of_enTlb hsale hmem)
  | some u => exact h.reemplazada_efecto ht (h.efecto hs hu).2

end Paso

end Carpinchos.Memoria
