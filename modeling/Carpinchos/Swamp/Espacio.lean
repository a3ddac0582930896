import Mathlib.Data.List.MinMax
import Mathlib.Data.List.TakeWhile
import Carpinchos.Swamp.Conteo
import Carpinchos.Swamp.Lectura

/-!
# Room in the swap files

`hayEspacioArchivo` looks for a free slot of a file, one step beyond the end of the list of
slots: a file that is full ends in an access through a null pointer. `archivoConMasEspacio`
chooses the file of a new carpincho by the bytes that are not zero, while the slots say which
pages are in use, so it may choose a file that is full.
-/

namespace Carpinchos.Swamp

open Outcome Runs Wire

variable {cfg : Config} {s s' : Estado} {pid : ℤ} {archivo : String}

section Definiciones

def primerLibre (archivo : String) (s : Estado) : Option ℕ :=
  ((s.marcos.filter fun m => m.archivo = archivo ∧ m.indice = -1).map Marco.marco).min?

/-- The free slots of a file are found, and a request to write about a file that has none is
answered with -1. -/
structure AtiendeArchivo (cfg : Config) (archivo : String) (s : Estado) : Prop where
  busca : hayEspacioArchivo cfg (some archivo) s = .ok (primerLibre archivo s)
  escribir : primerLibre archivo s = none → ∀ pid pagina buffer basura,
    archivoPedido cfg pid s = archivo →
      ∃ s', escribirSwap cfg pid pagina buffer basura s = .ok (encodeInt32 (-1), s')
  puedeEscribir : primerLibre archivo s = none → ∀ pid cantPaginas,
    archivoPedido cfg pid s = archivo → 1 ≤ cantPaginas →
      ∃ s', puedeEscribir cfg pid cantPaginas s = .ok (encodeInt32 (-1), s')

/-- A carpincho gets a file that has a free slot. -/
def UbicaBien (cfg : Config) (pid : ℤ) (s : Estado) : Prop :=
  ∃ archivo s', recibirPagina cfg pid .escribir s = .ok (some archivo, s') ∧
    archivoDe pid s' = some archivo ∧ 0 < marcosLibres archivo s

/-- The same, whatever the blocks held in which the files are counted. -/
def Conteo.UbicaBien (cfg : Config) (sobras : ℕ → List UInt8) (pid : ℤ) (s : Estado) : Prop :=
  ∃ archivo s', Conteo.recibirPagina cfg sobras pid .escribir s = .ok (some archivo, s') ∧
    archivoDe pid s' = some archivo ∧ 0 < marcosLibres archivo s

/-- How many bytes of a file are not zero, up to the first 255. -/
def bytesEscritos (cfg : Config) (archivo : String) (s : Estado) : ℕ :=
  (List.range cfg.tamanioSwamp).countP fun i =>
    decide (s.contenido archivo i ≠ 0) && decide (∀ j ≤ i, s.contenido archivo j ≠ 255)

/-- A file with a free slot has fewer bytes written than every file that is full; as many as one
that stands after it are few enough. -/
def LugarConMenosBytes (cfg : Config) (s : Estado) : Prop :=
  ∃ antes archivo despues, cfg.archivosSwamp = antes ++ archivo :: despues ∧
    0 < marcosLibres archivo s ∧
    (∀ lleno ∈ antes, marcosLibres lleno s = 0 →
      bytesEscritos cfg archivo s < bytesEscritos cfg lleno s) ∧
    ∀ lleno ∈ despues, marcosLibres lleno s = 0 →
      bytesEscritos cfg archivo s ≤ bytesEscritos cfg lleno s

end Definiciones

section Busqueda

theorem buscarLibre_eq {pasos : ℕ} {l : List Marco} (h : l.length < pasos) :
    buscarLibre archivo pasos l =
      match l.find? fun m => m.archivo = archivo ∧ m.indice = -1 with
      | some m => .ok (some m.marco)
      | none => .error .punteroNulo := by
  induction l generalizing pasos with
  | nil =>
    cases pasos with
    | zero => cases h
    | succ pasos => rfl
  | cons m l ih =>
    cases pasos with
    | zero => cases h
    | succ pasos =>
      rw [buscarLibre, List.find?_cons]
      by_cases hm : m.archivo = archivo ∧ m.indice = -1
      · rw [if_pos hm, decide_eq_true hm]
      · rw [if_neg hm, decide_eq_false hm]
        exact ih (Nat.lt_of_succ_lt_succ h)

theorem lugares_en_orden (cfg : Config) :
    cfg.lugares.Pairwise fun x y => x.1 = y.1 → x.2 < y.2 := by
  apply List.pairwise_flatMap.2
  constructor
  · intro a _
    rw [List.pairwise_map]
    apply List.pairwise_lt_range.imp
    intro i j hij _
    exact hij
  · apply cfg.archivos_nodup.imp
    intro a b hab x hx y hy hxy
    obtain ⟨i, -, rfl⟩ := List.mem_map.1 hx
    obtain ⟨j, -, rfl⟩ := List.mem_map.1 hy
    exact absurd hxy hab

theorem primerLibre_eq_find
    (hlugares : s.marcos.map (fun m => (m.archivo, m.marco)) = cfg.lugares) :
    primerLibre archivo s =
      (s.marcos.find? fun m => m.archivo = archivo ∧ m.indice = -1).map Marco.marco := by
  have horden := lugares_en_orden cfg
  rw [← hlugares, List.pairwise_map] at horden
  have hlibres := horden.sublist (List.filter_sublist (p := fun m : Marco =>
    decide (m.archivo = archivo ∧ m.indice = -1)) (l := s.marcos))
  rw [← List.head?_filter, primerLibre]
  cases hfiltro : s.marcos.filter fun m => m.archivo = archivo ∧ m.indice = -1 with
  | nil => rfl
  | cons m resto =>
    rw [hfiltro, List.pairwise_cons] at hlibres
    have hde : ∀ x ∈ m :: resto, x.archivo = archivo := by
      intro x hx
      rw [← hfiltro, List.mem_filter, decide_eq_true_eq] at hx
      exact hx.2.1
    rw [List.map_cons, List.head?_cons, Option.map_some, List.min?_eq_some_iff]
    refine ⟨List.mem_cons_self, fun b hb => ?_⟩
    rcases List.mem_cons.1 hb with rfl | hb
    · exact le_rfl
    · obtain ⟨x, hx, rfl⟩ := List.mem_map.1 hb
      apply Nat.le_of_lt
      apply hlibres.1 x hx
      rw [hde m List.mem_cons_self, hde x (List.mem_cons_of_mem _ hx)]

theorem primerLibre_eq_none : primerLibre archivo s = none ↔ marcosLibres archivo s = 0 := by
  rw [primerLibre, List.min?_eq_none_iff, List.map_eq_nil_iff, marcosLibres,
    List.countP_eq_length_filter, List.length_eq_zero_iff]

/-- What `hayEspacioArchivo` does: it answers for a file with room only. -/
theorem hayEspacioArchivo_eq
    (hlugares : s.marcos.map (fun m => (m.archivo, m.marco)) = cfg.lugares) :
    hayEspacioArchivo cfg (some archivo) s =
      match primerLibre archivo s with
      | some m => .ok (some m)
      | none => .error .punteroNulo := by
  have hlargo : s.marcos.length < cfg.cantMarcos * cfg.cantArchivos + 1 := by
    rw [← length_lugares, ← hlugares, List.length_map]
    exact Nat.lt_succ_self _
  rw [hayEspacioArchivo, buscarLibre_eq hlargo, primerLibre_eq_find hlugares]
  cases s.marcos.find? fun m => m.archivo = archivo ∧ m.indice = -1 <;> rfl

end Busqueda

section Eleccion

theorem countP_takeWhile {α : Type} (p q : α → Bool) (f : ℕ → α) (n : ℕ) :
    (((List.range n).map f).takeWhile p).countP q =
      (List.range n).countP fun i => q (f i) && decide (∀ j ≤ i, p (f j) = true) := by
  induction n with
  | zero => rfl
  | succ n ih =>
    rw [List.range_succ, List.map_append, List.countP_append, ← ih, List.takeWhile_append]
    by_cases hlargo : (((List.range n).map f).takeWhile p).length = ((List.range n).map f).length
    · have htodos := (List.takeWhile_prefix p).eq_of_length hlargo
      have hp : ∀ j < n, p (f j) = true := by
        simpa using List.takeWhile_eq_self_iff.1 htodos
      rw [if_pos hlargo, htodos, List.countP_append]
      have hiff : (∀ j ≤ n, p (f j) = true) ↔ p (f n) = true :=
        ⟨fun h => h n le_rfl, fun h j hj => hj.lt_or_eq.elim (hp j) fun heq => heq ▸ h⟩
      cases hn : p (f n) <;> simp [hn, hiff]
    · rw [if_neg hlargo]
      have hno : ¬ ∀ j ≤ n, p (f j) = true := by
        intro h
        refine hlargo (congrArg List.length (List.takeWhile_eq_self_iff.2 fun x hx => ?_))
        obtain ⟨j, hj, rfl⟩ := List.mem_map.1 hx
        exact h j (List.mem_range.1 hj).le
      simp [hno]

theorem contador_eq (cfg : Config) (archivo : String) (s : Estado) :
    contador cfg archivo s = bytesEscritos cfg archivo s := by
  rw [contador, bytesDe, countP_takeWhile, bytesEscritos]
  simp only [decide_eq_true_eq]

/-- The loop of `archivoConMasEspacio` keeps the first of the least counters. -/
theorem archivoConMasEspacio_argmin (cfg : Config) (s : Estado) :
    cfg.archivosSwamp.argmin (fun archivo => bytesEscritos cfg archivo s) =
      some (archivoConMasEspacio cfg s) := by
  have hfold : ∀ (l : List String) (a : String),
      l.foldl (List.argAux fun b c => bytesEscritos cfg b s < bytesEscritos cfg c s) (some a) =
        some (l.foldl (fun menor archivo =>
          if contador cfg archivo s < contador cfg menor s then archivo else menor) a) := by
    intro l
    induction l with
    | nil => exact fun a => rfl
    | cons b l ih =>
      intro a
      rw [List.foldl_cons, List.foldl_cons, ← ih]
      congr 1
      rw [apply_ite some, contador_eq, contador_eq]
      rfl
  obtain ⟨a, as, has⟩ := List.exists_cons_of_ne_nil cfg.archivos_ne
  simp only [List.argmin, archivoConMasEspacio, has, List.head_cons, List.foldl_cons,
    lt_irrefl, if_false]
  exact hfold as a

/-- The choice has a free slot exactly when a file that has one comes before every full file, in
the order of the bytes written and of the list. -/
theorem marcosLibres_elegido_iff (cfg : Config) (s : Estado) :
    0 < marcosLibres (archivoConMasEspacio cfg s) s ↔ LugarConMenosBytes cfg s := by
  have helegido := archivoConMasEspacio_argmin cfg s
  generalize archivoConMasEspacio cfg s = elegido at helegido ⊢
  have hmem := List.argmin_mem helegido
  have hmenor : ∀ archivo ∈ cfg.archivosSwamp,
      bytesEscritos cfg elegido s ≤ bytesEscritos cfg archivo s :=
    fun archivo harchivo => List.le_of_mem_argmin harchivo helegido
  constructor
  · intro hlugar
    obtain ⟨antes, despues, hlista⟩ := List.append_of_mem hmem
    refine ⟨antes, elegido, despues, hlista, hlugar, fun lleno hlleno hcero => ?_,
      fun lleno hlleno _ => hmenor lleno (by simp [hlista, hlleno])⟩
    by_contra hno
    -- the choice would not be the first of the least counters
    have hindice := List.index_of_argmin helegido (by simp [hlista, hlleno]) (not_lt.1 hno)
    have hnodup := cfg.archivos_nodup
    rw [hlista] at hindice hnodup
    have hfuera : elegido ∉ antes := fun h =>
      (List.nodup_append.1 hnodup).2.2 elegido h elegido (by simp) rfl
    rw [List.idxOf_append_of_notMem hfuera, List.idxOf_append_of_mem hlleno,
      List.idxOf_cons_self] at hindice
    have hlt := List.idxOf_lt_length_of_mem hlleno
    omega
  · rintro ⟨antes, archivo, despues, hlista, hlugar, hantes, hdespues⟩
    by_contra hno
    have hlleno : marcosLibres elegido s = 0 := by omega
    have harchivo := hmenor archivo (by simp [hlista])
    rw [hlista, List.mem_append, List.mem_cons] at hmem
    rcases hmem with hmem | rfl | hmem
    · have hmenos := hantes elegido hmem hlleno
      omega
    · omega
    · have higuales := hdespues elegido hmem hlleno
      have hindice := List.index_of_argmin helegido (by simp [hlista]) higuales
      have hnodup := cfg.archivos_nodup
      rw [hlista] at hindice hnodup
      have hdistintos := List.nodup_append.1 hnodup
      have hfuera : ∀ x ∈ archivo :: despues, x ∉ antes :=
        fun x hx hantes => hdistintos.2.2 x hantes x hx rfl
      have hne : archivo ≠ elegido := fun heq =>
        (List.nodup_cons.1 hdistintos.2.1).1 (heq ▸ hmem)
      rw [List.idxOf_append_of_notMem (hfuera _ (by simp [hmem])),
        List.idxOf_append_of_notMem (hfuera _ (by simp)), List.idxOf_cons_self,
        List.idxOf_cons_ne _ hne] at hindice
      omega

theorem recibirPagina_nuevo (hlugares : s.marcos.map (fun m => (m.archivo, m.marco)) = cfg.lugares)
    (hpid : archivoDe pid s = none) :
    UbicaBien cfg pid s ↔ 0 < marcosLibres (archivoConMasEspacio cfg s) s := by
  have hfind := hpid
  rw [archivoDe_eq_find, Option.map_eq_none_iff] at hfind
  rw [Nat.pos_iff_ne_zero, Ne, ← primerLibre_eq_none]
  unfold UbicaBien recibirPagina
  simp only [hfind, hayEspacioArchivo_eq hlugares]
  cases hlibre : primerLibre (archivoConMasEspacio cfg s) s with
  | none =>
    refine iff_of_false ?_ (fun hno => hno rfl)
    rintro ⟨archivo, s', hs', -⟩
    cases hs'
  | some m =>
    refine iff_of_true ⟨_, _, rfl, ?_, ?_⟩ (Option.some_ne_none m)
    · have hfichas : fichas { s with carpinchos := s.carpinchos ++
          [{ pid := pid, archivo := archivoConMasEspacio cfg s, cantMarcos := 0 }] } =
          fichas s ++ [(pid, archivoConMasEspacio cfg s)] := by
        simp [fichas, Carpincho.ficha]
      rw [archivoDe_nuevo hfichas, hpid, if_pos rfl, Option.none_or]
    · rw [Nat.pos_iff_ne_zero, Ne, ← primerLibre_eq_none, hlibre]
      exact Option.some_ne_none m

end Eleccion

section Ejemplos

def paginaEnCero : List (Peticion × Basura) := [(.escribir 1 1 [0], basuraCero)]

end Ejemplos

end Carpinchos.Swamp
