import Carpinchos.Conexion.Mensajes

/-!
# What the library makes of a reply

The kernel forwards the bytes that it read from the memory module, and
`serializar_instancia` of the library reads them again. From these bytes each call of the
library makes its result: `mate_memwrite` compares them with zero, if the address at which they
are kept fits in a `mate_pointer`, `mate_memfree` takes that address for the code, and
`mate_memread` copies them to a block of its own, which it frees before it returns.
-/

namespace Carpinchos.Conexion

open Outcome Wire

section Definiciones

def reenviar (i : Instancia) (d : Desenlace) : Except Falla (List UInt8) := do
  let (leidos, _) ← leerRespuesta (.instancia i) (serverProcesarMensaje (.instancia i) d)
  .ok leidos

def serializarInstancia (i : Instancia) (d : Desenlace) : Except Falla (List UInt8) := do
  let reenviado ← reenviar i d
  let (result, _) ← leerRespuesta (.instancia i) reenviado
  .ok result

def Instancia.con (i : Instancia) (tipoOp : Operacion) : Instancia := { i with tipoOp := tipoOp }

def punteroAInt (puntero : ℕ) : ℤ := decodeInt32 (encode 4 puntero)

/-- An integer of 32 bits converted to a pointer of 64 bits. -/
def intAPuntero (n : ℤ) : ℕ := (n % 2 ^ 64).toNat

/-- `mate_memwrite`; `puntero` is the address of the block in which the reply is kept. It is
converted to a `mate_pointer` and back before the block is read. -/
def mateMemwrite (puntero : ℕ) (i : Instancia) (d : Desenlace) : Except Falla ℤ := do
  let buffer ← serializarInstancia (i.con .memwrite) d
  if intAPuntero (punteroAInt puntero) ≠ puntero then .error .punteroInvalido
  let dest := decodeInt32 buffer
  .ok (if dest ≠ 0 then 0 else -1)

/-- `mate_memfree`; `puntero` is the address of the block in which the reply is kept. -/
def mateMemfree (puntero : ℕ) (i : Instancia) (d : Desenlace) : Except Falla ℤ := do
  let _ ← serializarInstancia (i.con .memfree) d
  .ok (punteroAInt puntero)

/-- `mate_memread`, with what it leaves in the buffer of the caller. The pointer to that buffer
is overwritten before the bytes are copied. -/
def mateMemread (dest : List UInt8) (i : Instancia) (d : Desenlace) :
    Except Falla (ℤ × List UInt8) := do
  let buffer ← serializarInstancia (i.con .memread) d
  let tamanio := decodeInt32 (buffer.take 4)
  .ok (if 0 < tamanio then 0 else -1, dest)

/-- `mate_memwrite` returns 0 exactly when the reply is MATE_WRITE_OK. -/
def EscrituraFiel (puntero : ℕ) (i : Instancia) (d : Desenlace) : Prop :=
  ∃ r, mateMemwrite puntero i d = .ok r ∧
    (r = 0 ↔ serverProcesarMensaje (.instancia (i.con .memwrite)) d = ErrCode.mateWriteOk.bytes)

/-- `mate_memfree` returns 0 exactly when the reply is MATE_FREE_OK. -/
def LiberacionFiel (puntero : ℕ) (i : Instancia) (d : Desenlace) : Prop :=
  ∃ r, mateMemfree puntero i d = .ok r ∧
    (r = 0 ↔ serverProcesarMensaje (.instancia (i.con .memfree)) d = ErrCode.mateFreeOk.bytes)

/-- `mate_memread` returns 0 exactly when the memory module delivered the data, and then they
are in the buffer of the caller. -/
def LecturaFiel (dest : List UInt8) (i : Instancia) (d : Desenlace) : Prop :=
  ∃ r, mateMemread dest i d = .ok r ∧ (r.1 = 0 ↔ d.exito = true) ∧
    (r.1 = 0 → r.2 = (List.range i.size).map d.buffer)

end Definiciones

section Respuestas

variable {i : Instancia} {d : Desenlace}

theorem serializarInstancia_completa (h : (Pedido.instancia i).Completa d) :
    serializarInstancia i d = .ok (serverProcesarMensaje (.instancia i) d) := by
  have hleer := leerRespuesta_completa h
  rw [serializarInstancia, reenviar, hleer, ok_bind, ok_bind, hleer, ok_bind]

theorem ErrCode.bytes_inj {a b : ErrCode} (h : a.bytes = b.bytes) : a = b := by
  have hvalor : a.valor = b.valor := by
    rw [← a.decode_bytes, h, b.decode_bytes]
  cases a <;> cases b <;> first | rfl | exact absurd hvalor (by decide)

theorem memwrite_ok_iff (i : Instancia) (d : Desenlace) :
    serverProcesarMensaje (.instancia (i.con .memwrite)) d = ErrCode.mateWriteOk.bytes ↔
      d.exito = true := by
  simp only [serverProcesarMensaje, Instancia.con]
  cases d.exito with
  | true => simp
  | false => exact iff_of_false (fun h => absurd (ErrCode.bytes_inj h) (by decide)) (by simp)

theorem memfree_ok_iff (i : Instancia) (d : Desenlace) :
    serverProcesarMensaje (.instancia (i.con .memfree)) d = ErrCode.mateFreeOk.bytes ↔
      d.exito = true := by
  simp only [serverProcesarMensaje, Instancia.con]
  cases d.exito with
  | true => simp
  | false => exact iff_of_false (fun h => absurd (ErrCode.bytes_inj h) (by decide)) (by simp)

/-- What the kernel forwards of a write is a code, and no code is zero. -/
theorem serializarInstancia_memwrite (i : Instancia) (d : Desenlace) :
    ∃ buffer, serializarInstancia (i.con .memwrite) d = .ok buffer ∧ decodeInt32 buffer ≠ 0 := by
  have hcompleta : (Pedido.instancia (i.con .memwrite)).Completa d := by
    intro h
    cases h
  refine ⟨_, serializarInstancia_completa hcompleta, ?_⟩
  simp only [serverProcesarMensaje, Instancia.con, ErrCode.decode_bytes]
  cases d.exito <;> decide

theorem mateMemwrite_entero {puntero : ℕ} (i : Instancia) (d : Desenlace)
    (h : intAPuntero (punteroAInt puntero) = puntero) : mateMemwrite puntero i d = .ok 0 := by
  obtain ⟨buffer, hbuffer, hvalor⟩ := serializarInstancia_memwrite i d
  rw [mateMemwrite, hbuffer, ok_bind, if_neg (not_not.2 h)]
  dsimp only
  rw [if_pos hvalor]

theorem mateMemwrite_cortado {puntero : ℕ} (i : Instancia) (d : Desenlace)
    (h : intAPuntero (punteroAInt puntero) ≠ puntero) :
    mateMemwrite puntero i d = .error .punteroInvalido := by
  obtain ⟨buffer, hbuffer, -⟩ := serializarInstancia_memwrite i d
  rw [mateMemwrite, hbuffer, ok_bind, if_pos h]
  rfl

/-- The addresses that are not lost: the lowest and the highest 2^31 of the 64 bits. -/
theorem intAPuntero_punteroAInt {puntero : ℕ} :
    intAPuntero (punteroAInt puntero) = puntero ↔
      puntero < 2 ^ 31 ∨ 2 ^ 64 - 2 ^ 31 ≤ puntero ∧ puntero < 2 ^ 64 := by
  have hdecode : decode (encode 4 puntero) = puntero % 2 ^ 32 := decode_encode 4 puntero
  rw [intAPuntero, punteroAInt, decodeInt32, hdecode]
  split <;> omega

theorem mateMemfree_eq (puntero : ℕ) (i : Instancia) (d : Desenlace) :
    mateMemfree puntero i d = .ok (punteroAInt puntero) := by
  have hcompleta : (Pedido.instancia (i.con .memfree)).Completa d := by
    intro h
    cases h
  rw [mateMemfree, serializarInstancia_completa hcompleta, ok_bind]

theorem punteroAInt_eq_zero {puntero : ℕ} : punteroAInt puntero = 0 ↔ puntero % 2 ^ 32 = 0 := by
  have hdecode : decode (encode 4 puntero) = puntero % 2 ^ 32 := decode_encode 4 puntero
  rw [punteroAInt, decodeInt32, hdecode]
  split <;> omega

/-- What was read is not copied to the buffer of the caller. -/
theorem mateMemread_exito (dest : List UInt8) (i : Instancia) (h : d.exito = true)
    (hsize : 0 < i.size) : mateMemread dest i d = .ok (0, dest) := by
  have hrespuesta : serverProcesarMensaje (.instancia (i.con .memread)) d =
      encodeInt32 i.size ++ (List.range i.size).map d.buffer :=
    serverProcesarMensaje_memread rfl h
  have htamanio : decodeInt32 ((serverProcesarMensaje (.instancia (i.con .memread)) d).take 4) =
      i.size := by
    rw [hrespuesta, List.take_left' (length_encodeInt32 _), i.decode_size]
  have hcompleta : (Pedido.instancia (i.con .memread)).Completa d := fun _ => ⟨h, hsize⟩
  rw [mateMemread, serializarInstancia_completa hcompleta, ok_bind]
  dsimp only
  rw [htamanio, if_pos (Nat.cast_pos.2 hsize)]

/-- Of a read of no byte the kernel never gets to the end. -/
theorem mateMemread_vacia (dest : List UInt8) (i : Instancia) (h : d.exito = true)
    (hsize : i.size = 0) : mateMemread dest i d = .error .esperando := by
  have hreenviar : reenviar (i.con .memread) d = .error .esperando := by
    rw [reenviar, serverProcesarMensaje_memread rfl h, leerRespuesta,
      recv_append (length_encodeInt32 _) (by decide), ok_bind]
    simp only [Instancia.con, Operacion.fase, hsize]
    rfl
  rw [mateMemread, serializarInstancia, hreenviar, error_bind, error_bind]

/-- The code of a fault stops the kernel before it forwards anything. -/
theorem mateMemread_falla (dest : List UInt8) (i : Instancia) (h : d.exito = false) :
    mateMemread dest i d = .error .punteroNulo := by
  have hrespuesta : serverProcesarMensaje (.instancia (i.con .memread)) d =
      ErrCode.mateReadFault.bytes := serverProcesarMensaje_memreadFault rfl h
  have hreenviar : reenviar (i.con .memread) d = .error .punteroNulo := by
    rw [reenviar, hrespuesta, leerRespuesta, recv_todo (ErrCode.length_bytes _) (by decide),
      ok_bind]
    simp only [Instancia.con, Operacion.fase, siguiente_fault, error_bind]
  rw [mateMemread, serializarInstancia, hreenviar, error_bind, error_bind]

end Respuestas

section Resultados

theorem escrituraFiel_iff (puntero : ℕ) (i : Instancia) (d : Desenlace) :
    EscrituraFiel puntero i d ↔
      d.exito = true ∧ (puntero < 2 ^ 31 ∨ 2 ^ 64 - 2 ^ 31 ≤ puntero ∧ puntero < 2 ^ 64) := by
  rw [EscrituraFiel, memwrite_ok_iff, ← intAPuntero_punteroAInt]
  constructor
  · rintro ⟨r, hr, hiff⟩
    by_cases hentero : intAPuntero (punteroAInt puntero) = puntero
    · rw [mateMemwrite_entero i d hentero] at hr
      cases hr
      exact ⟨hiff.1 rfl, hentero⟩
    · rw [mateMemwrite_cortado i d hentero] at hr
      cases hr
  · rintro ⟨h, hentero⟩
    exact ⟨0, mateMemwrite_entero i d hentero, iff_of_true rfl h⟩

theorem liberacionFiel_iff (puntero : ℕ) (i : Instancia) (d : Desenlace) :
    LiberacionFiel puntero i d ↔ (d.exito = true ↔ puntero % 2 ^ 32 = 0) := by
  rw [LiberacionFiel, mateMemfree_eq, memfree_ok_iff, ← punteroAInt_eq_zero]
  constructor
  · rintro ⟨r, hr, hiff⟩
    cases hr
    exact hiff.symm
  · intro h
    exact ⟨_, rfl, h.symm⟩

theorem lecturaFiel_iff (dest : List UInt8) (i : Instancia) (d : Desenlace) :
    LecturaFiel dest i d ↔
      d.exito = true ∧ 0 < i.size ∧ dest = (List.range i.size).map d.buffer := by
  rw [LecturaFiel]
  cases hexito : d.exito with
  | false =>
    rw [mateMemread_falla dest i hexito]
    constructor
    · rintro ⟨r, hr, -⟩
      cases hr
    · rintro ⟨h, -⟩
      cases h
  | true =>
    constructor
    · rintro ⟨r, hr, -, hdest⟩
      rcases Nat.eq_zero_or_pos i.size with hsize | hsize
      · rw [mateMemread_vacia dest i hexito hsize] at hr
        cases hr
      · rw [mateMemread_exito dest i hexito hsize] at hr
        cases hr
        exact ⟨rfl, hsize, hdest rfl⟩
    · rintro ⟨-, hsize, hdest⟩
      exact ⟨_, mateMemread_exito dest i hexito hsize, iff_of_true rfl rfl, fun _ => hdest⟩

/-- The results are faithful for a write that succeeds and whose reply is kept at an address
that fits in a `mate_pointer`, for a free whose code agrees with the address of its reply, and
for a read of at least one byte into a buffer that holds the bytes already. -/
theorem resultados_fieles_iff (i : Instancia) (d : Desenlace) (puntero : ℕ) (dest : List UInt8) :
    (EscrituraFiel puntero i d ↔
      d.exito = true ∧ (puntero < 2 ^ 31 ∨ 2 ^ 64 - 2 ^ 31 ≤ puntero ∧ puntero < 2 ^ 64)) ∧
    (LiberacionFiel puntero i d ↔ (d.exito = true ↔ puntero % 2 ^ 32 = 0)) ∧
    (LecturaFiel dest i d ↔
      d.exito = true ∧ 0 < i.size ∧ dest = (List.range i.size).map d.buffer) :=
  ⟨escrituraFiel_iff puntero i d, liberacionFiel_iff puntero i d, lecturaFiel_iff dest i d⟩

/-- A write that fails is reported as done, a write whose reply is kept at a high address does
not return, a free that succeeds is reported as failed, a byte that was read does not reach its
buffer, and a read that fails does not return. -/
theorem resultados_infieles :
    mateMemwrite 4096 ⟨.memwrite, 1, by decide⟩ ⟨false, 0, fun _ => 0⟩ = .ok 0 ∧
      mateMemwrite (2 ^ 46) ⟨.memwrite, 1, by decide⟩ ⟨true, 0, fun _ => 0⟩ =
        .error .punteroInvalido ∧
      mateMemfree 4096 ⟨.memfree, 1, by decide⟩ ⟨true, 0, fun _ => 0⟩ = .ok 4096 ∧
      mateMemread [0] ⟨.memread, 1, by decide⟩ ⟨true, 0, fun _ => 65⟩ = .ok (0, [0]) ∧
      mateMemread [0] ⟨.memread, 1, by decide⟩ ⟨false, 0, fun _ => 0⟩ = .error .punteroNulo ∧
      ¬ (EscrituraFiel 4096 ⟨.memwrite, 1, by decide⟩ ⟨false, 0, fun _ => 0⟩ ∨
        LiberacionFiel 4096 ⟨.memfree, 1, by decide⟩ ⟨true, 0, fun _ => 0⟩ ∨
        LecturaFiel [0] ⟨.memread, 1, by decide⟩ ⟨true, 0, fun _ => 65⟩) := by
  refine ⟨mateMemwrite_entero _ _ (intAPuntero_punteroAInt.2 (.inl (by decide))),
    mateMemwrite_cortado _ _ (mt intAPuntero_punteroAInt.1 (by decide)), mateMemfree_eq _ _ _,
    mateMemread_exito _ _ rfl (by decide), mateMemread_falla _ _ rfl, ?_⟩
  rintro (h | h | h)
  · exact absurd ((escrituraFiel_iff _ _ _).1 h).1 (by decide)
  · exact absurd ((liberacionFiel_iff _ _ _).1 h) (by decide)
  · exact absurd ((lecturaFiel_iff _ _ _).1 h).2.2 (by decide)

end Resultados

end Carpinchos.Conexion
