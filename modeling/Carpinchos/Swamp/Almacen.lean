import Carpinchos.Swamp.Ranuras

/-!
# SWAmP as a store of pages

With one swap file, a page that is written only when no slot holds it is in at most one
slot, the one that its last write filled, and its bytes there are those written. A second
write of a page that was not read in between takes another slot, which reads do not find.
The bytes of a write, which may be more than a page, have to stay off the slots in use and
within the file.
-/

namespace Carpinchos.Swamp

open Outcome Runs Wire Slots

variable {cfg : Config} {s s' : Estado} {pid pagina : ℤ} {i : ℕ}

section Historia

def Acceso.clave : Acceso → ℤ × ℤ
  | .escritura pid pagina _ _ _ => (pid, pagina)
  | .lectura pid pagina _ _ => (pid, pagina)

def ultimoAcceso (k : ℤ × ℤ) (accesos : List Acceso) : Option Acceso :=
  (accesos.filter fun a => a.clave = k).getLast?

theorem ultimoAcceso_append (k : ℤ × ℤ) (accesos : List Acceso) (a : Acceso) :
    ultimoAcceso k (accesos ++ [a]) = if a.clave = k then some a else ultimoAcceso k accesos := by
  rw [ultimoAcceso, List.filter_append, ultimoAcceso]
  by_cases h : a.clave = k <;> simp [h]

/-- The last access to a page was its write to slot `i` of the file. -/
def Escrita (cfg : Config) (accesos : List Acceso) (k : ℤ × ℤ) (i : ℕ) (bytes : List UInt8) :
    Prop :=
  ultimoAcceso k accesos = some (.escritura k.1 k.2 (cfg.archivosSwamp.head cfg.archivos_ne)
    (cfg.tamanioPagina * i) bytes)

end Historia

section Definiciones

/-- SWAmP works as a store: no page is in two slots, a page is found in the slot that its
last write filled, and the bytes of that write are in place. -/
structure Almacena (cfg : Config) (s : Estado) : Prop where
  una : Unique (ranura s)
  ultima : ∀ pid pagina i, 0 ≤ pagina →
    (conseguirMarco pid pagina s = some i ↔ ∃ bytes, Escrita cfg s.accesos (pid, pagina) i bytes)
  contenido : ∀ k i bytes, Escrita cfg s.accesos k i bytes →
    ∀ j < min cfg.tamanioPagina bytesCopiados,
      s.contenido (cfg.archivosSwamp.head cfg.archivos_ne) (cfg.tamanioPagina * i + j) =
        bytes.getD j 0

def Paginada (x : Peticion × Basura) : Prop :=
  match x.1 with
  | .leer _ pagina => 0 ≤ pagina
  | .escribir _ pagina _ => 0 ≤ pagina
  | _ => True

/-- The bytes that a write would copy end within the file and do not reach a later slot in
use. Both may happen when a page is shorter than them. -/
def noPisa (cfg : Config) (s : Estado) : Bool :=
  match hayEspacioArchivo cfg (some (cfg.archivosSwamp.head cfg.archivos_ne)) s with
  | .ok (some i) =>
    decide (cfg.tamanioPagina * i + bytesCopiados ≤ cfg.tamanioSwamp) &&
      (List.range s.marcos.length).all fun j =>
        decide (j ≤ i) || (ranura s j).isNone ||
          decide (cfg.tamanioPagina * i + bytesCopiados ≤ cfg.tamanioPagina * j)
  | _ => true

/-- A page is not written while a slot holds it, nor over another page. -/
def resguarda (cfg : Config) (s : Estado) (x : Peticion × Basura) : Bool :=
  match x.1 with
  | .escribir pid pagina _ => (conseguirMarco pid pagina s).isNone && noPisa cfg s
  | _ => true

end Definiciones

section Invariante

variable {bytes : List UInt8} {m : Marco} {archivo : String}

/-- The slots agree with the history. -/
structure Fiel (cfg : Config) (s : Estado) : Prop where
  bien : Bien cfg s
  una : Unique (ranura s)
  ultimo : ∀ k i, ranura s i = some k ↔ ∃ bytes, Escrita cfg s.accesos k i bytes
  contenido : ∀ k i bytes, Escrita cfg s.accesos k i bytes →
    ∀ j < min cfg.tamanioPagina bytesCopiados,
      s.contenido (cfg.archivosSwamp.head cfg.archivos_ne) (cfg.tamanioPagina * i + j) =
        bytes.getD j 0

theorem Fiel.almacena (h : Fiel cfg s) : Almacena cfg s where
  una := h.una
  ultima := fun pid pagina i hpagina => by
    rw [conseguirMarco_of_unique (by omega) h.una, h.ultimo]
  contenido := h.contenido

theorem inicial_fiel (cfg : Config) (basura : ℕ → ℤ) : Fiel cfg (inicial cfg basura) := by
  have hvacias : ∀ i k, ranura (inicial cfg basura) i ≠ some k := by
    intro i k h
    obtain ⟨m, hm, hindice, -⟩ := exists_of_ranura h
    obtain ⟨j, hj, rfl⟩ := List.mem_mapIdx.1 (List.mem_of_getElem? hm)
    exact hindice rfl
  refine ⟨inicial_bien cfg basura, fun i j k hi => absurd hi (hvacias i k), fun k i => ?_, ?_⟩
  · refine ⟨fun h => absurd h (hvacias i k), ?_⟩
    rintro ⟨bytes, h⟩
    cases h
  · intro k i bytes h
    cases h

theorem Bien.unico (hb : Bien cfg s) (huno : cfg.archivosSwamp.length = 1)
    (hm : s.marcos[i]? = some m) :
    m.archivo = cfg.archivosSwamp.head cfg.archivos_ne ∧ m.marco = i ∧ i < cfg.cantMarcos := by
  have hi : i < cfg.cantMarcos := by
    have hlt := (List.getElem?_eq_some_iff.1 hm).1
    rw [hb.length_marcos, Config.cantArchivos, huno, Nat.mul_one] at hlt
    exact hlt
  have hlugar := (hb.lugar hm).symm.trans (lugares_primero hi)
  obtain ⟨harchivo, hmarco⟩ := Prod.mk.inj (Option.some.inj hlugar)
  exact ⟨harchivo, hmarco, hi⟩

theorem Conserva.fiel (h : Conserva s s') (hf : Fiel cfg s) : Fiel cfg s' where
  bien := h.bien hf.bien
  una := by
    rw [ranura_congr h.marcos]
    exact hf.una
  ultimo := by
    rw [ranura_congr h.marcos, h.accesos]
    exact hf.ultimo
  contenido := by
    rw [h.contenido, h.accesos]
    exact hf.contenido

theorem escrita_sirve (h : Sirve cfg pid pagina i archivo s s') (k : ℤ × ℤ) (j : ℕ)
    (bs : List UInt8) : Escrita cfg s'.accesos k j bs ↔
      k ≠ (pid, pagina) ∧ Escrita cfg s.accesos k j bs := by
  rw [Escrita, Escrita, h.accesos, ultimoAcceso_append]
  by_cases hk : k = (pid, pagina)
  · simp [hk, Acceso.clave]
  · rw [if_neg (by simpa [Acceso.clave] using Ne.symm hk)]
    simp [hk]

theorem escrita_guarda (h : Guarda cfg pid pagina bytes i m s s') (hb : Bien cfg s)
    (huno : cfg.archivosSwamp.length = 1) (k : ℤ × ℤ) (j : ℕ) (bs : List UInt8) :
    Escrita cfg s'.accesos k j bs ↔ k = (pid, pagina) ∧ j = i ∧ bs = bytes ∨
      k ≠ (pid, pagina) ∧ Escrita cfg s.accesos k j bs := by
  obtain ⟨harchivo, hmarco, -⟩ := hb.unico huno h.hueco
  rw [Escrita, Escrita, h.accesos, ultimoAcceso_append]
  by_cases hk : k = (pid, pagina)
  · subst hk
    have hpos := cfg.pagina_pos.ne'
    simp only [Acceso.clave, if_true, harchivo, hmarco, Option.some.injEq,
      Acceso.escritura.injEq, true_and, Nat.mul_right_inj hpos, ne_eq, not_true_eq_false,
      false_and, or_false]
    rw [eq_comm, eq_comm (a := bytes)]
  · rw [if_neg (by simpa [Acceso.clave] using Ne.symm hk)]
    simp [hk]

theorem Sirve.fiel (h : Sirve cfg pid pagina i archivo s s') (hf : Fiel cfg s)
    (huno : cfg.archivosSwamp.length = 1) (hpagina : pagina ≠ -1) : Fiel cfg s' := by
  have hi := conseguirMarco_eq_some hpagina h.encontrado
  have hranura : ranura s' = Function.update (ranura s) i none := by
    obtain ⟨m, hm, -⟩ := exists_of_ranura hi
    exact h.ranura_primero hf.bien hpagina (hf.bien.unico huno hm).2.2
  have hescrita := escrita_sirve h
  refine ⟨h.bien hf.bien, ?_, fun k j => ?_, fun k j bytes hk => ?_⟩
  · rw [hranura]
    exact hf.una.release i
  · simp only [hescrita, exists_and_left, ← hf.ultimo, hranura, Function.update_apply]
    by_cases hji : j = i
    · subst hji
      rw [if_pos rfl, hi]
      simp [eq_comm]
    · rw [if_neg hji]
      constructor
      · intro hj
        refine ⟨?_, hj⟩
        rintro rfl
        exact hji (hf.una j i _ hj hi)
      · exact fun hj => hj.2
  · rw [h.contenido]
    exact hf.contenido k j bytes ((hescrita k j bytes).1 hk).2

theorem contenido_guardar_otro {a : String} {d x : ℕ} (h : x < d ∨ d + bytes.length ≤ x) :
    (guardar a d bytes s).contenido a x = s.contenido a x := by
  simp only [guardar, Function.update_self]
  rw [if_neg (by omega)]

theorem contenido_guardar {a : String} {d j : ℕ} (hj : j < bytes.length) :
    (guardar a d bytes s).contenido a (d + j) = bytes.getD j 0 := by
  simp only [guardar, Function.update_self]
  rw [if_pos (by omega), Nat.add_sub_cancel_left]

/-- What the guard says of the slot that is taken. -/
theorem noPisa_iff (h : Guarda cfg pid pagina bytes i m s s') (hb : Bien cfg s)
    (huno : cfg.archivosSwamp.length = 1) :
    noPisa cfg s = true ↔ cfg.tamanioPagina * i + bytesCopiados ≤ cfg.tamanioSwamp ∧
      ∀ j k, ranura s j = some k → i < j →
        cfg.tamanioPagina * i + bytesCopiados ≤ cfg.tamanioPagina * j := by
  obtain ⟨harchivo, hmarco, -⟩ := hb.unico huno h.hueco
  rw [noPisa, ← harchivo, h.elegido, hmarco]
  simp only [Bool.and_eq_true, decide_eq_true_eq, List.all_eq_true, List.mem_range,
    Bool.or_eq_true, Option.isNone_iff_eq_none]
  refine and_congr_right fun _ => ?_
  constructor
  · intro hver j k hj hij
    have hlt := (List.getElem?_eq_some_iff.1 (exists_of_ranura hj).choose_spec.1).1
    rcases hver j hlt with (hle | hnone) | hcabe
    · omega
    · rw [hj] at hnone
      cases hnone
    · exact hcabe
  · intro hver j _
    rcases Nat.lt_or_ge i j with hij | hij
    · cases hj : ranura s j with
      | none => exact Or.inl (Or.inr rfl)
      | some k => exact Or.inr (hver j k hj hij)
    · exact Or.inl (Or.inl hij)

theorem Guarda.fiel (h : Guarda cfg pid pagina bytes i m s s') (hf : Fiel cfg s)
    (huno : cfg.archivosSwamp.length = 1) (hpagina : pagina ≠ -1)
    (hbytes : bytes.length = bytesCopiados) (hno : conseguirMarco pid pagina s = none)
    (hpisa : noPisa cfg s = true) : Fiel cfg s' := by
  have hnueva := (conseguirMarco_eq_none hpagina).1 hno
  obtain ⟨harchivo, hmarco, hi⟩ := hf.bien.unico huno h.hueco
  have hranura := h.ranura hpagina
  have hescrita := escrita_guarda h hf.bien huno
  refine ⟨h.bien hf.bien, ?_, fun k j => ?_, fun k j bs hk n hn => ?_⟩
  · rw [hranura]
    exact hf.una.fill hnueva i
  · simp only [hescrita, hranura, Function.update_apply]
    by_cases hji : j = i
    · subst hji
      have hlibre := h.ranura_libre
      rw [if_pos rfl]
      constructor
      · intro hk
        exact ⟨bytes, Or.inl ⟨(Option.some.inj hk).symm, rfl, rfl⟩⟩
      · rintro ⟨bs, ⟨rfl, -, -⟩ | ⟨-, hk⟩⟩
        · rfl
        · rw [(hf.ultimo k j).2 ⟨bs, hk⟩] at hlibre
          cases hlibre
    · rw [if_neg hji]
      constructor
      · intro hj
        obtain ⟨bs, hbs⟩ := (hf.ultimo k j).1 hj
        refine ⟨bs, Or.inr ⟨?_, hbs⟩⟩
        rintro rfl
        exact hnueva ⟨j, hj⟩
      · rintro ⟨bs, ⟨-, hj, -⟩ | ⟨-, hk⟩⟩
        · exact absurd hj hji
        · exact (hf.ultimo k j).2 ⟨bs, hk⟩
  · obtain ⟨hnP, hnB⟩ := lt_min_iff.1 hn
    rw [h.contenido, harchivo, hmarco]
    rcases (hescrita k j bs).1 hk with ⟨-, rfl, rfl⟩ | ⟨-, hk⟩
    · exact contenido_guardar (hbytes ▸ hnB)
    · rw [contenido_guardar_otro, hf.contenido k j bs hk n hn]
      have hj := (hf.ultimo k j).2 ⟨bs, hk⟩
      have hji : j ≠ i := by
        rintro rfl
        rw [h.ranura_libre] at hj
        cases hj
      rcases Nat.lt_or_gt_of_ne hji with hlt | hgt
      · -- an earlier slot ends before this one begins
        have hle : cfg.tamanioPagina * (j + 1) ≤ cfg.tamanioPagina * i :=
          Nat.mul_le_mul_left _ hlt
        rw [Nat.mul_succ] at hle
        omega
      · have hver := ((noPisa_iff h hf.bien huno).1 hpisa).2 j k hj hgt
        omega

end Invariante

def sinBasura : Basura := ⟨fun _ => 0, fun _ => 0⟩

end Carpinchos.Swamp
