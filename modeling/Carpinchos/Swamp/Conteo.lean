import Carpinchos.Swamp.Ranuras

/-!
# How many swap files there are

`obtenerCantArchivos` copies the text of the configuration into a fresh block without its zero,
and `strtok` goes on into what the block held before. It may count files that there are not, and
each function that asks for the number asks anew. The functions that go astray on a count that
is too high are written out here with what each of their blocks held. `hayEspacioArchivo` and
the loop of FIJA do not: the first gets to the end of the slots in any case, and the second
returns what it finds for the first file.
-/

namespace Carpinchos.Swamp

open Outcome

/-- What `strtok` counts too many, the text being followed by `sobra`: the pieces between commas
up to the first zero that are not empty, but for the first, which goes on with the text. -/
def sobran (sobra : List UInt8) : ℕ :=
  ((sobra.takeWhile fun c => c ≠ 0).splitOn 44).tail.countP fun pieza => pieza ≠ []

def Config.obtenerCantArchivos (cfg : Config) (sobra : List UInt8) : ℕ :=
  cfg.cantArchivos + sobran sobra

namespace Conteo

section Funciones

variable (cfg : Config)

/-- It opens each of the files that it counts, and there is none after the last. -/
def archivoConMasEspacio (sobra : List UInt8) (s : Estado) : Except Falla String :=
  if cfg.cantArchivos < cfg.obtenerCantArchivos sobra then .error .punteroNulo
  else .ok (Swamp.archivoConMasEspacio cfg s)

variable (sobras : ℕ → List UInt8)

/-- For a carpincho that is not known the file is chosen twice. -/
def recibirPagina (pid : ℤ) (operacion : CodOp) (s : Estado) :
    Except Falla (Option String × Estado) :=
  match s.carpinchos.find? fun c => c.pid = pid with
  | some c => .ok (some c.archivo, s)
  | none =>
    match operacion with
    | .puedeEscribir => do
      let archivo ← archivoConMasEspacio cfg (sobras 0) s
      match ← hayEspacioArchivo cfg (some archivo) s with
      | some _ =>
        let archivo ← archivoConMasEspacio cfg (sobras 1) s
        .ok (some archivo, s)
      | none => .ok (none, s)
    | .escribir => do
      let archivo ← archivoConMasEspacio cfg (sobras 0) s
      match ← hayEspacioArchivo cfg (some archivo) s with
      | some _ =>
        let archivo ← archivoConMasEspacio cfg (sobras 1) s
        let unCarpincho : Carpincho := { pid := pid, archivo := archivo, cantMarcos := 0 }
        .ok (some archivo, { s with carpinchos := s.carpinchos ++ [unCarpincho] })
      | none => .ok (none, s)
    | _ => .ok (none, s)

def chequearAsignacion (pid : ℤ) (s : Estado) : Except Falla (ℤ × Estado) :=
  if s.casoAsignacion = global then do
    let (unArchivo, s) ← recibirPagina cfg sobras pid .escribir s
    match ← hayEspacioArchivo cfg unArchivo s with
    | some _ => .ok (0, s)
    | none => .ok (-1, s)
  else Swamp.chequearAsignacion cfg pid s

/-- `sobra` is what the block holds when all the slots have been looked at: the loop goes on if
the count is too high then. -/
def verSiHayPaginas (sobra : List UInt8) (cantPaginas : ℤ) (archivo : String) (s : Estado) :
    Except Falla ℤ :=
  if cfg.cantMarcos * cfg.cantArchivos < cfg.cantMarcos * cfg.obtenerCantArchivos sobra then
    .error .punteroNulo
  else .ok (Swamp.verSiHayPaginas cantPaginas archivo s)

/-- The blocks are those of `recibirPagina`, those of the check and that of
`verSiHayPaginas`. -/
def puedeEscribir (pid cantPaginas : ℤ) (s : Estado) : Except Falla (List UInt8 × Estado) := do
  let (archivo, s) ← recibirPagina cfg sobras pid .puedeEscribir s
  let (asignacion, s) ← chequearAsignacion cfg (fun i => sobras (i + 2)) pid s
  match archivo with
  | some archivo =>
    if asignacion = 0 then
      let hayPaginas ← verSiHayPaginas cfg (sobras 4) cantPaginas archivo s
      .ok (Wire.encodeInt32 (if hayPaginas ≠ -1 then 1 else -1), s)
    else .ok (Wire.encodeInt32 (-1), s)
  | none => .ok (Wire.encodeInt32 (-1), s)

end Funciones

section Exactitud

variable {cfg : Config} {s s' : Estado} {sobra : List UInt8} {sobras : ℕ → List UInt8} {pid : ℤ}
  {operacion : CodOp} {o : Option String} {archivo : String} {cant : ℤ}

theorem archivoConMasEspacio_eq_ok :
    archivoConMasEspacio cfg sobra s = .ok archivo ↔
      sobran sobra = 0 ∧ archivo = Swamp.archivoConMasEspacio cfg s := by
  unfold archivoConMasEspacio Config.obtenerCantArchivos
  split
  · next hmas =>
    refine iff_of_false (fun h => by cases h) fun h => ?_
    omega
  · next hno =>
    rw [Except.ok.injEq, eq_comm]
    exact ⟨fun h => ⟨by omega, h⟩, fun h => h.2⟩

theorem verSiHayPaginas_eq_ok {r : ℤ} :
    verSiHayPaginas cfg sobra cant archivo s = .ok r ↔
      (cfg.cantMarcos = 0 ∨ sobran sobra = 0) ∧ r = Swamp.verSiHayPaginas cant archivo s := by
  have hcuenta : ¬ cfg.cantMarcos * cfg.cantArchivos < cfg.cantMarcos * (cfg.cantArchivos +
      sobran sobra) ↔ cfg.cantMarcos = 0 ∨ sobran sobra = 0 := by
    rw [Nat.mul_add, Nat.not_lt, ← Nat.mul_eq_zero]
    omega
  unfold verSiHayPaginas Config.obtenerCantArchivos
  rw [← hcuenta]
  split
  · next hmas => exact iff_of_false (fun h => by cases h) fun h => h.1 hmas
  · next hno =>
    rw [Except.ok.injEq, eq_comm]
    exact ⟨fun h => ⟨hno, h⟩, fun h => h.2⟩

/-- The file of a carpincho that is not known needs two counts that are right. -/
theorem recibirPagina_eq_ok (hop : operacion = .escribir ∨ operacion = .puedeEscribir) :
    recibirPagina cfg sobras pid operacion s = .ok (some archivo, s') ↔
      Swamp.recibirPagina cfg pid operacion s = .ok (some archivo, s') ∧
        (archivoDe pid s = none → sobran (sobras 0) = 0 ∧ sobran (sobras 1) = 0) := by
  rw [archivoDe_eq_find, Option.map_eq_none_iff]
  unfold recibirPagina Swamp.recibirPagina
  cases s.carpinchos.find? fun c => c.pid = pid with
  | some c => exact ⟨fun h => ⟨h, fun hno => by cases hno⟩, fun h => h.1⟩
  | none =>
    simp only [true_imp_iff]
    constructor
    · intro h
      rcases hop with rfl | rfl
      all_goals
        obtain ⟨a, ha, h⟩ := bind_eq_ok.1 h
        obtain ⟨hcero, rfl⟩ := archivoConMasEspacio_eq_ok.1 ha
        obtain ⟨libre, hlibre, h⟩ := bind_eq_ok.1 h
        cases libre with
        | none => cases h
        | some m =>
          obtain ⟨a, ha, h⟩ := bind_eq_ok.1 h
          obtain ⟨huno, rfl⟩ := archivoConMasEspacio_eq_ok.1 ha
          dsimp only
          rw [hlibre, ok_bind]
          exact ⟨h, hcero, huno⟩
    · rintro ⟨h, hcero, huno⟩
      have hexacta : ∀ sobra, sobran sobra = 0 →
          archivoConMasEspacio cfg sobra s = .ok (Swamp.archivoConMasEspacio cfg s) :=
        fun sobra hsobra => archivoConMasEspacio_eq_ok.2 ⟨hsobra, rfl⟩
      rw [hexacta _ hcero, hexacta _ huno]
      exact h

theorem recibirPagina_some (hb : Bien cfg s)
    (hop : operacion = .escribir ∨ operacion = .puedeEscribir)
    (h : recibirPagina cfg sobras pid operacion s = .ok (o, s')) : ∃ archivo, o = some archivo := by
  unfold recibirPagina at h
  split at h
  · next c _ =>
    cases h
    exact ⟨c.archivo, rfl⟩
  · rcases hop with rfl | rfl
    all_goals
      obtain ⟨elegido, -, h⟩ := bind_eq_ok.1 h
      obtain ⟨libre, hlibre, h⟩ := bind_eq_ok.1 h
      obtain ⟨i, x, rfl, -⟩ := (hayEspacioArchivo_spec hb _).post_of_eq hlibre
      obtain ⟨archivo, -, h⟩ := bind_eq_ok.1 h
      cases h
      exact ⟨archivo, rfl⟩

end Exactitud

end Conteo

end Carpinchos.Swamp
