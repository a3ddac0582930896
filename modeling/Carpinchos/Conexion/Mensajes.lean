import Carpinchos.Library.Runs
import Carpinchos.Library.Wire

/-!
# Replies of the memory module

The kernel sends the requests of the carpinchos to the memory module over one
connection, with `serializar_instancia` while they run and `finalizacionCarpincho` at
their end. `server_procesar_mensaje` chooses the bytes of the reply; the kernel chooses
in another place how many it reads.
-/

namespace Carpinchos.Conexion

open Outcome Runs Wire

/-- What stops a program in the middle of a reply: the null pointer of a `malloc` that fails,
an address that is none of its own, or bytes that do not come. -/
inductive Falla
  | punteroNulo
  | punteroInvalido
  | esperando
  deriving DecidableEq, Repr

inductive ErrCode
  | mateFreeFault
  | mateReadFault
  | mateWriteFault
  | mateWriteOk
  | mateFreeOk
  | mateAllocFault
  | mateEndOk
  | mateEndFault
  deriving DecidableEq, Repr

def ErrCode.valor : ErrCode → ℤ
  | mateFreeFault => -5
  | mateReadFault => -6
  | mateWriteFault => -7
  | mateWriteOk => 7
  | mateFreeOk => 5
  | mateAllocFault => -4
  | mateEndOk => 9
  | mateEndFault => -9

inductive Operacion
  | memalloc
  | memfree
  | memread
  | memwrite
  deriving DecidableEq, Repr

/-- The part of an instance on which the length of the reply depends. -/
structure Instancia where
  tipoOp : Operacion
  size : ℕ
  size_lt : size < 2 ^ 31
  deriving DecidableEq, Repr

inductive Pedido
  | instancia (i : Instancia)
  | processEnded
  deriving DecidableEq, Repr

/-- What the memory module computes for a request. -/
structure Desenlace where
  /-- the operation returned EXITO -/
  exito : Bool
  direccion : ℕ
  buffer : ℕ → UInt8

def ErrCode.bytes (codigo : ErrCode) : List UInt8 := encodeInt32 codigo.valor

/-- The bytes that `server_procesar_mensaje` sends. -/
def serverProcesarMensaje (pedido : Pedido) (d : Desenlace) : List UInt8 :=
  match pedido with
  | .instancia i =>
    match i.tipoOp with
    | .memalloc => if d.exito then encode 4 d.direccion else ErrCode.mateAllocFault.bytes
    | .memfree => (if d.exito then ErrCode.mateFreeOk else ErrCode.mateFreeFault).bytes
    | .memread =>
      if d.exito then encodeInt32 i.size ++ (List.range i.size).map d.buffer
      else ErrCode.mateReadFault.bytes
    | .memwrite => (if d.exito then ErrCode.mateWriteOk else ErrCode.mateWriteFault).bytes
  | .processEnded => (if d.exito then ErrCode.mateEndOk else ErrCode.mateEndFault).bytes

/-- The reads of `serializar_instancia`: one of fixed length, or that of a length and one
of so many bytes. -/
inductive Fase
  | unica
  | tamanio
  | valor
  deriving DecidableEq, Repr

def Operacion.fase : Operacion → Fase
  | .memread => .tamanio
  | _ => .unica

/-- Whether and how much `serializar_instancia` reads after a read. Below -4 the `malloc` of
the length and four more bytes fails, and its result is written to; another negative length
is a size of almost 2^64 for the `recv`. -/
def siguiente (fase : Fase) (leido : List UInt8) : Except Falla (Option ℕ) :=
  match fase with
  | .tamanio =>
    let unTamanio := decodeInt32 leido
    if unTamanio < -4 then .error .punteroNulo else .ok (some (unTamanio % 2 ^ 64).toNat)
  | _ => .ok none

/-- `recv` with `MSG_WAITALL` when no other thread reads. On an empty stream it waits for
data, also to read no byte. -/
def recv (n : ℕ) (flujo : List UInt8) : Except Falla (List UInt8 × List UInt8) :=
  if flujo = [] then .error .esperando
  else
    match takeExact n flujo with
    | some r => .ok r
    | none => .error .esperando

def leerRespuesta (pedido : Pedido) (flujo : List UInt8) :
    Except Falla (List UInt8 × List UInt8) :=
  match pedido with
  | .instancia i => do
    let (leido, flujo) ← recv 4 flujo
    match ← siguiente i.tipoOp.fase leido with
    | none => .ok (leido, flujo)
    | some n =>
      let (valor, flujo) ← recv n flujo
      .ok (leido ++ valor, flujo)
  | .processEnded => .ok ([], flujo)

structure Intercambio where
  enviados : List UInt8
  leidos : List UInt8
  deriving DecidableEq, Repr

def intercambiar (x : Pedido × Desenlace) (flujo : List UInt8) :
    Except Falla (Intercambio × List UInt8) := do
  let enviados := serverProcesarMensaje x.1 x.2
  let (leidos, flujo) ← leerRespuesta x.1 (flujo ++ enviados)
  .ok (⟨enviados, leidos⟩, flujo)

/-- The requests that the kernel reads the reply of to its end. -/
def Pedido.Completa (pedido : Pedido) (d : Desenlace) : Prop :=
  match pedido with
  | .instancia i => i.tipoOp = .memread → d.exito = true ∧ 0 < i.size
  | .processEnded => False

/-- In every initial part of the list, each exchange reads as many bytes as were sent, and
the stream is empty at the end. -/
def Encuadrados (xs : List (Pedido × Desenlace)) : Prop :=
  ∀ previos, previos <+: xs → ∃ os, run intercambiar previos [] = .ok (os, []) ∧
    ∀ o ∈ os, o.leidos.length = o.enviados.length

section Respuesta

variable {i : Instancia} {d : Desenlace} {x : Pedido × Desenlace} {pedido : Pedido}

theorem ErrCode.length_bytes (codigo : ErrCode) : codigo.bytes.length = 4 :=
  length_encodeInt32 _

theorem ErrCode.decode_bytes (codigo : ErrCode) : decodeInt32 codigo.bytes = codigo.valor := by
  refine decodeInt32_encodeInt32 ?_ ?_ <;> cases codigo <;> decide

theorem Instancia.decode_size (i : Instancia) : decodeInt32 (encodeInt32 i.size) = i.size := by
  have hsize := i.size_lt
  exact decodeInt32_encodeInt32 (by omega) (by omega)

/-- Outside MEMREAD every reply has four bytes. -/
theorem length_serverProcesarMensaje (h : i.tipoOp ≠ .memread) :
    (serverProcesarMensaje (.instancia i) d).length = 4 := by
  cases hop : i.tipoOp with
  | memread => exact absurd hop h
  | memalloc =>
    simp only [serverProcesarMensaje, hop]
    split
    · exact length_encode _ _
    · exact ErrCode.length_bytes _
  | memfree =>
    simp only [serverProcesarMensaje, hop]
    exact ErrCode.length_bytes _
  | memwrite =>
    simp only [serverProcesarMensaje, hop]
    exact ErrCode.length_bytes _

theorem serverProcesarMensaje_memread (h : i.tipoOp = .memread) (hd : d.exito = true) :
    serverProcesarMensaje (.instancia i) d =
      encodeInt32 i.size ++ (List.range i.size).map d.buffer := by
  simp [serverProcesarMensaje, h, hd]

theorem serverProcesarMensaje_memreadFault (h : i.tipoOp = .memread) (hd : d.exito = false) :
    serverProcesarMensaje (.instancia i) d = ErrCode.mateReadFault.bytes := by
  simp [serverProcesarMensaje, h, hd]

theorem fase_unica (h : i.tipoOp ≠ .memread) : i.tipoOp.fase = .unica := by
  cases hop : i.tipoOp <;> simp_all [Operacion.fase]

theorem recv_append {n : ℕ} {primero resto : List UInt8} (h : primero.length = n) (hn : 0 < n) :
    recv n (primero ++ resto) = .ok (primero, resto) := by
  have hllena : primero ++ resto ≠ [] :=
    List.append_ne_nil_of_left_ne_nil (List.ne_nil_of_length_pos (h ▸ hn)) resto
  rw [recv, if_neg hllena, takeExact_append h]

theorem recv_todo {n : ℕ} {bytes : List UInt8} (h : bytes.length = n) (hn : 0 < n) :
    recv n bytes = .ok (bytes, []) := by
  have hrecv : recv n (bytes ++ []) = .ok (bytes, []) := recv_append h hn
  rwa [List.append_nil] at hrecv

theorem siguiente_size (i : Instancia) :
    siguiente .tamanio (encodeInt32 i.size) = .ok (some i.size) := by
  have hsize := i.size_lt
  have hmod : ((i.size : ℤ) % 2 ^ 64).toNat = i.size := by omega
  simp only [siguiente, i.decode_size, hmod]
  rw [if_neg (by omega)]

/-- The code of a fault is taken for a length. -/
theorem siguiente_fault : siguiente .tamanio ErrCode.mateReadFault.bytes = .error .punteroNulo := by
  simp [siguiente, ErrCode.decode_bytes, ErrCode.valor]

theorem leerRespuesta_completa (h : pedido.Completa d) :
    leerRespuesta pedido (serverProcesarMensaje pedido d) =
      .ok (serverProcesarMensaje pedido d, []) := by
  cases pedido with
  | processEnded => exact absurd h id
  | instancia i =>
    by_cases hop : i.tipoOp = .memread
    · obtain ⟨hd, hsize⟩ := h hop
      have hvalor : recv i.size ((List.range i.size).map d.buffer) =
          .ok ((List.range i.size).map d.buffer, []) := recv_todo (by simp) hsize
      rw [serverProcesarMensaje_memread hop hd]
      simp only [leerRespuesta, recv_append (length_encodeInt32 _) (by decide), ok_bind, hop,
        Operacion.fase, siguiente_size, hvalor]
    · have hrecv := recv_todo (length_serverProcesarMensaje (d := d) hop) (by decide)
      simp only [leerRespuesta, hrecv, ok_bind, fase_unica hop, siguiente]

theorem completa_of_leerRespuesta {leidos : List UInt8}
    (h : leerRespuesta pedido (serverProcesarMensaje pedido d) = .ok (leidos, [])) :
    pedido.Completa d := by
  cases pedido with
  | processEnded =>
    have hvacia : serverProcesarMensaje .processEnded d = [] :=
      congrArg Prod.snd (Except.ok.inj h)
    have hlargo := congrArg List.length hvacia
    rw [serverProcesarMensaje, ErrCode.length_bytes] at hlargo
    cases hlargo
  | instancia i =>
    intro hop
    by_contra hno
    cases hd : d.exito with
    | false =>
      rw [serverProcesarMensaje_memreadFault hop hd] at h
      have hrecv := recv_todo (ErrCode.length_bytes .mateReadFault) (by decide)
      simp only [leerRespuesta, hrecv, ok_bind, hop, Operacion.fase, siguiente_fault,
        error_bind] at h
      cases h
    | true =>
      have hsize : i.size = 0 := Nat.eq_zero_of_not_pos fun hsize => hno ⟨hd, hsize⟩
      rw [serverProcesarMensaje_memread hop hd] at h
      simp only [leerRespuesta, recv_append (length_encodeInt32 _) (by decide), ok_bind, hop,
        Operacion.fase, siguiente_size] at h
      rw [hsize] at h
      cases h

theorem intercambiar_vacio_iff :
    (∃ o, intercambiar x [] = .ok (o, []) ∧ o.leidos.length = o.enviados.length) ↔
      x.1.Completa x.2 := by
  constructor
  · rintro ⟨o, h, -⟩
    obtain ⟨⟨leidos, flujo⟩, hleidos, h⟩ := bind_eq_ok.1 h
    cases h
    exact completa_of_leerRespuesta hleidos
  · intro h
    refine ⟨⟨_, _⟩, bind_eq_ok.2 ⟨_, leerRespuesta_completa h, rfl⟩, rfl⟩

end Respuesta

section Listas

variable {xs : List (Pedido × Desenlace)}

theorem encuadrados_of_completas (h : ∀ x ∈ xs, x.1.Completa x.2) :
    ∃ os, run intercambiar xs [] = .ok (os, []) ∧
      ∀ o ∈ os, o.leidos.length = o.enviados.length := by
  induction xs with
  | nil => exact ⟨[], rfl, fun o ho => by cases ho⟩
  | cons x xs ih =>
    obtain ⟨o, ho, hlargo⟩ := intercambiar_vacio_iff.2 (h x (by simp))
    obtain ⟨os, hos, hlargos⟩ := ih fun y hy => h y (List.mem_cons_of_mem _ hy)
    refine ⟨o :: os, ?_, fun o' ho' => ?_⟩
    · simp only [run, ho, ok_bind, hos]
    · rcases List.mem_cons.1 ho' with rfl | ho'
      · exact hlargo
      · exact hlargos o' ho'

/-- The replies of a list of requests keep in step with the reads of the kernel exactly
when no request ends a process and no MEMREAD fails or is of no byte. -/
theorem encuadrados_iff (xs : List (Pedido × Desenlace)) :
    Encuadrados xs ↔ ∀ x ∈ xs, x.1.Completa x.2 := by
  constructor
  · intro h x hx
    obtain ⟨antes, despues, rfl⟩ := List.append_of_mem hx
    obtain ⟨os, hos, -⟩ := h antes (List.prefix_append _ _)
    obtain ⟨os', hos', hlargo⟩ := h (antes ++ [x]) ⟨despues, by simp⟩
    rw [run_append, hos, ok_bind] at hos'
    obtain ⟨⟨os₁, flujo⟩, h₁, hfin⟩ := bind_eq_ok.1 hos'
    obtain ⟨⟨o, flujo'⟩, ho, hos₁⟩ := bind_eq_ok.1 h₁
    cases hos₁
    cases hfin
    exact intercambiar_vacio_iff.1 ⟨o, ho, hlargo o (by simp)⟩
  · rintro h previos ⟨despues, rfl⟩
    exact encuadrados_of_completas fun x hx => h x (List.mem_append_left _ hx)

/-- The end of a process leaves four bytes that nobody reads, and a MEMREAD that fails
stops the kernel. -/
theorem no_encuadrados : ¬ ∀ xs : List (Pedido × Desenlace), Encuadrados xs := by
  intro h
  obtain ⟨os, hos, -⟩ := h [(.processEnded, ⟨true, 0, fun _ => 0⟩)] _ List.prefix_rfl
  obtain ⟨r, hr, hos⟩ := bind_eq_ok.1 hos
  cases hr
  cases hos

end Listas

end Carpinchos.Conexion
