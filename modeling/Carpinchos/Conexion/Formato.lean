import Carpinchos.Library.Runs
import Carpinchos.Library.Wire

/-!
# The wire format of an instance

An instance travels from the library to the kernel and from the kernel to the memory module
as thirteen fields after a code of operation. The library and the kernel each have a
`serializar_instancia`, the kernel has a third encoder in `finalizacionCarpincho`, and the
kernel and the memory module each have a `deserializar_instancia`. Every encoder computes in
an `int` how many bytes it asks for.
-/

namespace Carpinchos.Formato

open Outcome Runs Wire

inductive Falla
  | punteroNulo
  | fueraDelBloque
  | desbordamiento
  | esperando
  | conexionCerrada
  deriving DecidableEq, Repr

structure Cadena where
  longitud : Int32
  bytes : List UInt8
  length_bytes : (bytes.length : ℤ) = longitud.toInt
  deriving DecidableEq, Repr

structure Semaforo where
  operacion : Int32
  valor : Int32
  nombreSem : Cadena
  deriving DecidableEq, Repr

structure MateMemory where
  valor : Cadena
  addr : Int32
  tipoOp : Int32
  deriving DecidableEq, Repr

structure MateInstance where
  tipo : Int32
  sema : Semaforo
  pid : Int32
  estado : Int32
  memoria : MateMemory
  nombreIo : Cadena
  deriving DecidableEq, Repr

section Constantes

/-- `PROCESS` of `codOperacion`. -/
def process : Int32 := 1

/-- `MEMORIA` and `INICIALIZACION` of `type`. -/
def memoria : Int32 := 0

def inicializacion : Int32 := 3

/-- `FINISHED` of `state`. -/
def finished : Int32 := 5

/-- `PROCESS_ENDED` of `operacion`. -/
def processEnded : Int32 := 4

/-- The size of an `int`, of a `pid_t`, of a `mate_pointer` and of each enumeration. -/
def sizeofInt : ℤ := 4

end Constantes

section Bloques

def malloc (tamanio : Int32) : Except Falla ℕ :=
  if tamanio.toInt < 0 then .error .punteroNulo else .ok tamanio.toInt.toNat

/-- Calls of `memcpy`, each after the bytes of the previous one. -/
def memcpys (bloque : ℕ) (partes : List (List UInt8)) : Except Falla (List UInt8) :=
  if partes.flatten.length ≤ bloque then .ok partes.flatten else .error .fueraDelBloque

def sumarInt (a b : Int32) : Except Falla Int32 :=
  if -2 ^ 31 ≤ a.toInt + b.toInt ∧ a.toInt + b.toInt < 2 ^ 31 then .ok (a + b)
  else .error .desbordamiento

def bytesInt (n : Int32) : List UInt8 := encodeInt32 n.toInt

end Bloques

section Codificadores

/-- The sum is a `size_t`, converted to `int`. -/
def Matelib.tamanio (libRef : MateInstance) : Int32 :=
  Int32.ofInt (libRef.nombreIo.longitud.toInt + libRef.memoria.valor.longitud.toInt +
    sizeofInt + 6 * sizeofInt + sizeofInt + sizeofInt + sizeofInt + sizeofInt +
    sizeofInt + sizeofInt + libRef.sema.nombreSem.longitud.toInt)

/-- `serializar_instancia` of the library, up to the bytes that it sends. -/
def Matelib.serializarInstancia (libRef : MateInstance) : Except Falla (List UInt8) := do
  let magic ← malloc (Matelib.tamanio libRef)
  memcpys magic
    [bytesInt process,
     bytesInt libRef.tipo,
     bytesInt libRef.sema.operacion,
     bytesInt libRef.sema.nombreSem.longitud,
     bytesInt libRef.sema.valor,
     libRef.sema.nombreSem.bytes,
     bytesInt libRef.pid,
     bytesInt libRef.estado,
     bytesInt libRef.memoria.valor.longitud,
     libRef.memoria.valor.bytes,
     bytesInt libRef.memoria.addr,
     bytesInt libRef.memoria.tipoOp,
     bytesInt libRef.nombreIo.longitud,
     libRef.nombreIo.bytes]

/-- The first two lengths are added as `int`, the rest as `size_t`. -/
def Kernel.tamanio (longitudIo size longitudSem : Int32) : Except Falla Int32 := do
  let suma ← sumarInt longitudIo size
  .ok (Int32.ofInt (suma.toInt +
    sizeofInt + 6 * sizeofInt + sizeofInt + sizeofInt + sizeofInt + sizeofInt +
    sizeofInt + sizeofInt + longitudSem.toInt))

/-- `serializar_instancia` of the kernel, up to the bytes that it sends. -/
def Kernel.serializarInstancia (carpincho : MateInstance) : Except Falla (List UInt8) := do
  let tamanio ← Kernel.tamanio carpincho.nombreIo.longitud carpincho.memoria.valor.longitud
    carpincho.sema.nombreSem.longitud
  let magic ← malloc tamanio
  memcpys magic
    [bytesInt process,
     bytesInt carpincho.tipo,
     bytesInt carpincho.sema.operacion,
     bytesInt carpincho.sema.nombreSem.longitud,
     bytesInt carpincho.sema.valor,
     carpincho.sema.nombreSem.bytes,
     bytesInt carpincho.pid,
     bytesInt carpincho.estado,
     bytesInt carpincho.memoria.valor.longitud,
     carpincho.memoria.valor.bytes,
     bytesInt carpincho.memoria.addr,
     bytesInt carpincho.memoria.tipoOp,
     bytesInt carpincho.nombreIo.longitud,
     carpincho.nombreIo.bytes]

/-- What the blocks that `finalizacionCarpincho` asks for and does not fill happen to hold. -/
structure SinIniciar where
  operacion : Int32
  valorSem : Int32
  nombreSem : UInt8
  valor : UInt8
  addr : Int32
  nombre : UInt8
  deriving DecidableEq, Repr

def Cadena.unByte (b : UInt8) : Cadena := ⟨1, [b], rfl⟩

def Kernel.instanciaFinal (unPID : Int32) (u : SinIniciar) : MateInstance where
  tipo := Formato.memoria
  sema :=
    { operacion := u.operacion, valor := u.valorSem, nombreSem := Cadena.unByte u.nombreSem }
  pid := unPID
  estado := finished
  memoria := { valor := Cadena.unByte u.valor, addr := u.addr, tipoOp := processEnded }
  nombreIo := Cadena.unByte u.nombre

/-- The bytes that `finalizacionCarpincho` sends. -/
def Kernel.finalizacionCarpincho (unPID : Int32) (u : SinIniciar) :
    Except Falla (List UInt8) := do
  let libRef := Kernel.instanciaFinal unPID u
  let tamanio ← Kernel.tamanio libRef.nombreIo.longitud libRef.memoria.valor.longitud
    libRef.sema.nombreSem.longitud
  let magic ← malloc tamanio
  memcpys magic
    [bytesInt process,
     bytesInt libRef.tipo,
     bytesInt libRef.sema.operacion,
     bytesInt libRef.sema.nombreSem.longitud,
     bytesInt libRef.sema.valor,
     libRef.sema.nombreSem.bytes,
     bytesInt unPID,
     bytesInt libRef.estado,
     bytesInt libRef.memoria.valor.longitud,
     libRef.memoria.valor.bytes,
     bytesInt libRef.memoria.addr,
     bytesInt libRef.memoria.tipoOp,
     bytesInt libRef.nombreIo.longitud,
     libRef.nombreIo.bytes]

end Codificadores

section Decodificadores

/-- `recv` of `n` bytes with `MSG_WAITALL`. On an empty stream it waits for data, also to
read no byte. -/
def recv (n : ℕ) (flujo : List UInt8) : Except Falla (List UInt8 × List UInt8) :=
  if flujo = [] then .error .esperando
  else
    match takeExact n flujo with
    | some r => .ok r
    | none => .error .esperando

def recvInt (flujo : List UInt8) : Except Falla (Int32 × List UInt8) := do
  let (bytes, flujo) ← recv 4 flujo
  .ok (Int32.ofInt (decodeInt32 bytes), flujo)

/-- A `malloc` of the length that was received and a `recv` into it. -/
def recvCadena (longitud : Int32) (flujo : List UInt8) : Except Falla (Cadena × List UInt8) :=
  if hneg : longitud.toInt < 0 then .error .punteroNulo
  else if hlargo : longitud.toInt.toNat ≤ flujo.length ∧ flujo ≠ [] then
    .ok (⟨longitud, flujo.take longitud.toInt.toNat, by
      rw [List.length_take_of_le hlargo.1, Int.toNat_of_nonneg (not_lt.1 hneg)]⟩,
      flujo.drop longitud.toInt.toNat)
  else .error .esperando

def recibirOperacion (flujo : List UInt8) : Except Falla (Int32 × List UInt8) := recvInt flujo

/-- `deserializar_instancia` of the kernel, with the bytes that it sends back. -/
def Kernel.deserializarInstancia (flujo : List UInt8) :
    Except Falla ((MateInstance × List UInt8) × List UInt8) := do
  let (tipo, flujo) ← recvInt flujo
  let (operacion, flujo) ← recvInt flujo
  let (longitud, flujo) ← recvInt flujo
  let (valor, flujo) ← recvInt flujo
  let (nombreSem, flujo) ← recvCadena longitud flujo
  let (pid, flujo) ← recvInt flujo
  let (estado, flujo) ← recvInt flujo
  let (size, flujo) ← recvInt flujo
  let (valorMem, flujo) ← recvCadena size flujo
  let (addr, flujo) ← recvInt flujo
  let (tipoOp, flujo) ← recvInt flujo
  let (longitudIo, flujo) ← recvInt flujo
  let (nombreIo, flujo) ← recvCadena longitudIo flujo
  let respuesta := if tipo = inicializacion then bytesInt 0 else []
  .ok ((⟨tipo, ⟨operacion, valor, nombreSem⟩, pid, estado, ⟨valorMem, addr, tipoOp⟩, nombreIo⟩,
    respuesta), flujo)

/-- `deserializar_instancia` of the memory module. -/
def Memoria.deserializarInstancia (flujo : List UInt8) :
    Except Falla (MateInstance × List UInt8) := do
  let (tipo, flujo) ← recvInt flujo
  let (operacion, flujo) ← recvInt flujo
  let (longitud, flujo) ← recvInt flujo
  let (valor, flujo) ← recvInt flujo
  let (nombreSem, flujo) ← recvCadena longitud flujo
  let (pid, flujo) ← recvInt flujo
  let (estado, flujo) ← recvInt flujo
  let (size, flujo) ← recvInt flujo
  let (valorMem, flujo) ← recvCadena size flujo
  let (addr, flujo) ← recvInt flujo
  let (tipoOp, flujo) ← recvInt flujo
  let (longitudIo, flujo) ← recvInt flujo
  let (nombreIo, flujo) ← recvCadena longitudIo flujo
  .ok (⟨tipo, ⟨operacion, valor, nombreSem⟩, pid, estado, ⟨valorMem, addr, tipoOp⟩, nombreIo⟩,
    flujo)

/-- A message: the socket is closed when its code is not that of a process. -/
def recibir {α : Type} (deserializarInstancia : List UInt8 → Except Falla (α × List UInt8))
    (flujo : List UInt8) : Except Falla (α × List UInt8) := do
  let (codOp, flujo) ← recibirOperacion flujo
  if codOp = process then deserializarInstancia flujo else .error .conexionCerrada

def recibirVarios {α : Type} (deserializarInstancia : List UInt8 → Except Falla (α × List UInt8))
    (n : ℕ) (flujo : List UInt8) : Except Falla (List α × List UInt8) :=
  run (fun _ => recibir deserializarInstancia) (List.replicate n ()) flujo

end Decodificadores

section Bloques

variable {n : Int32} {resto : List UInt8}

@[simp] theorem length_bytesInt (n : Int32) : (bytesInt n).length = 4 := length_encodeInt32 _

theorem recv_append {n : ℕ} {primero : List UInt8} (h : primero.length = n) (hn : 0 < n) :
    recv n (primero ++ resto) = .ok (primero, resto) := by
  have hllena : primero ++ resto ≠ [] :=
    List.append_ne_nil_of_left_ne_nil (List.ne_nil_of_length_pos (h ▸ hn)) resto
  rw [recv, if_neg hllena, takeExact_append h]

@[simp] theorem recvInt_append (n : Int32) (resto : List UInt8) :
    recvInt (bytesInt n ++ resto) = .ok (n, resto) := by
  have hdecode : decodeInt32 (bytesInt n) = n.toInt :=
    decodeInt32_encodeInt32 n.le_toInt n.toInt_lt
  rw [recvInt, recv_append (length_bytesInt n) (by decide), ok_bind]
  simp only [hdecode, Int32.ofInt_toInt]

theorem Cadena.longitud_nonneg (c : Cadena) : 0 ≤ c.longitud.toInt := by
  have hlargo := c.length_bytes
  omega

theorem recvCadena_append (c : Cadena) (hllena : c.bytes ++ resto ≠ []) :
    recvCadena c.longitud (c.bytes ++ resto) = .ok (c, resto) := by
  have hneg : ¬ c.longitud.toInt < 0 := not_lt.2 c.longitud_nonneg
  have hlargo : c.longitud.toInt.toNat = c.bytes.length := by
    rw [← c.length_bytes, Int.toNat_natCast]
  have hcabe : c.longitud.toInt.toNat ≤ (c.bytes ++ resto).length := by
    rw [hlargo, List.length_append]
    exact Nat.le_add_right _ _
  rw [recvCadena, dif_neg hneg, dif_pos ⟨hcabe, hllena⟩]
  simp only [hlargo, List.take_left', List.drop_left']

@[simp] theorem recvCadena_append_int (c : Cadena) (n : Int32) (resto : List UInt8) :
    recvCadena c.longitud (c.bytes ++ (bytesInt n ++ resto)) = .ok (c, bytesInt n ++ resto) := by
  refine recvCadena_append c ?_
  have hllena : bytesInt n ≠ [] := List.ne_nil_of_length_pos (by simp)
  simp [hllena]

/-- The read of a string waits while nothing comes. -/
theorem recvCadena_nil (c : Cadena) : recvCadena c.longitud [] = .error .esperando := by
  rw [recvCadena, dif_neg (not_lt.2 c.longitud_nonneg), dif_neg (by simp)]

theorem malloc_of_nonneg (h : 0 ≤ n.toInt) : malloc n = .ok n.toInt.toNat :=
  if_neg (not_lt.2 h)

theorem malloc_of_neg (h : n.toInt < 0) : malloc n = .error .punteroNulo := if_pos h

end Bloques

namespace MateInstance

variable (x : MateInstance)

def largo : ℤ :=
  x.nombreIo.longitud.toInt + x.memoria.valor.longitud.toInt + x.sema.nombreSem.longitud.toInt

def pedidos : ℤ := 13 * sizeofInt + x.largo

def campos : List (List UInt8) :=
  [bytesInt process, bytesInt x.tipo, bytesInt x.sema.operacion,
    bytesInt x.sema.nombreSem.longitud, bytesInt x.sema.valor, x.sema.nombreSem.bytes,
    bytesInt x.pid, bytesInt x.estado, bytesInt x.memoria.valor.longitud, x.memoria.valor.bytes,
    bytesInt x.memoria.addr, bytesInt x.memoria.tipoOp, bytesInt x.nombreIo.longitud,
    x.nombreIo.bytes]

/-- The number of bytes that an encoder asks for fits in an `int`. -/
def Cabe : Prop := x.pedidos < 2 ^ 31

instance : Decidable x.Cabe := inferInstanceAs (Decidable (x.pedidos < 2 ^ 31))

theorem largo_nonneg : 0 ≤ x.largo := by
  have hio := x.nombreIo.longitud_nonneg
  have hvalor := x.memoria.valor.longitud_nonneg
  have hsem := x.sema.nombreSem.longitud_nonneg
  unfold largo
  omega

theorem length_campos : (x.campos.flatten.length : ℤ) = 11 * sizeofInt + x.largo := by
  have hio := x.nombreIo.length_bytes
  have hvalor := x.memoria.valor.length_bytes
  have hsem := x.sema.nombreSem.length_bytes
  simp only [campos, List.length_flatten, List.map_cons, List.map_nil, List.sum_cons,
    List.sum_nil, length_bytesInt]
  unfold largo sizeofInt
  push_cast
  omega

end MateInstance

section Codificadores

variable {x : MateInstance} {tamanio : Int32} {m : List UInt8}

/-- The end of every encoder: a block of the size asked for, and the fields in it. -/
def empaquetar (tamanio : Int32) (x : MateInstance) : Except Falla (List UInt8) := do
  let magic ← malloc tamanio
  memcpys magic x.campos

theorem empaquetar_of_eq (h : tamanio.toInt = x.pedidos) :
    empaquetar tamanio x = .ok x.campos.flatten := by
  have hlargo := x.length_campos
  have hnonneg := x.largo_nonneg
  have hpedidos : x.pedidos = 13 * sizeofInt + x.largo := rfl
  have hint : sizeofInt = 4 := rfl
  have htamanio : 0 ≤ tamanio.toInt := by omega
  have hcabe : x.campos.flatten.length ≤ tamanio.toInt.toNat := by omega
  rw [empaquetar, malloc_of_nonneg htamanio, ok_bind, memcpys, if_pos hcabe]

theorem empaquetar_eq_ok (h : empaquetar tamanio x = .ok m) :
    m = x.campos.flatten ∧ (x.campos.flatten.length : ℤ) ≤ tamanio.toInt := by
  obtain ⟨magic, hmagic, hcopia⟩ := bind_eq_ok.1 h
  unfold malloc at hmagic
  unfold memcpys at hcopia
  split at hmagic
  · cases hmagic
  · next hneg =>
    cases hmagic
    split at hcopia
    · next hcabe =>
      cases hcopia
      exact ⟨rfl, by omega⟩
    · cases hcopia

/-- A number of bytes that does not fit in an `int` becomes one that is negative or too
small. -/
theorem cabe_of_empaquetar (h : empaquetar (Int32.ofInt x.pedidos) x = .ok m) : x.Cabe := by
  obtain ⟨-, hcabe⟩ := empaquetar_eq_ok h
  have hlargo := x.length_campos
  have hio := x.nombreIo.longitud.toInt_lt
  have hvalor := x.memoria.valor.longitud.toInt_lt
  have hsem := x.sema.nombreSem.longitud.toInt_lt
  have hpedidos : x.pedidos = 13 * sizeofInt + x.largo := rfl
  have hint : sizeofInt = 4 := rfl
  rw [Int32.toInt_ofInt] at hcabe
  unfold MateInstance.Cabe
  unfold MateInstance.largo at *
  simp only [Int.bmod, Int32.size] at hcabe
  omega

theorem toInt_pedidos (h : x.Cabe) : (Int32.ofInt x.pedidos).toInt = x.pedidos := by
  have hnonneg := x.largo_nonneg
  have hpedidos : x.pedidos = 13 * sizeofInt + x.largo := rfl
  have hint : sizeofInt = 4 := rfl
  exact Int32.toInt_ofInt_of_le (by omega) h

theorem Matelib.serializarInstancia_eq (x : MateInstance) :
    Matelib.serializarInstancia x = empaquetar (Int32.ofInt x.pedidos) x := by
  have htamanio : Matelib.tamanio x = Int32.ofInt x.pedidos := by
    unfold Matelib.tamanio MateInstance.pedidos MateInstance.largo
    congr 1
    ring
  rw [Matelib.serializarInstancia, htamanio]
  rfl

/-- Two lengths that can be added as `int` give the size of the library. -/
theorem Kernel.tamanio_eq (h : x.Cabe) :
    Kernel.tamanio x.nombreIo.longitud x.memoria.valor.longitud x.sema.nombreSem.longitud =
      .ok (Int32.ofInt x.pedidos) := by
  have hio := x.nombreIo.longitud_nonneg
  have hvalor := x.memoria.valor.longitud_nonneg
  have hsem := x.sema.nombreSem.longitud_nonneg
  have hint : sizeofInt = 4 := rfl
  have hsuma : x.nombreIo.longitud.toInt + x.memoria.valor.longitud.toInt < 2 ^ 31 := by
    unfold MateInstance.Cabe MateInstance.pedidos MateInstance.largo at h
    omega
  have hrango : -2 ^ 31 ≤ x.nombreIo.longitud.toInt + x.memoria.valor.longitud.toInt ∧
      x.nombreIo.longitud.toInt + x.memoria.valor.longitud.toInt < 2 ^ 31 := by
    omega
  have htoInt : (x.nombreIo.longitud + x.memoria.valor.longitud).toInt =
      x.nombreIo.longitud.toInt + x.memoria.valor.longitud.toInt := by
    rw [Int32.toInt_add]
    exact Int.bmod_eq_of_le (by omega) (by omega)
  rw [Kernel.tamanio, sumarInt, if_pos hrango, ok_bind, htoInt]
  congr 2
  unfold MateInstance.pedidos MateInstance.largo
  ring

theorem Matelib.serializarInstancia_of_cabe (h : x.Cabe) :
    Matelib.serializarInstancia x = .ok x.campos.flatten := by
  rw [Matelib.serializarInstancia_eq, empaquetar_of_eq (toInt_pedidos h)]

theorem Kernel.serializarInstancia_of_cabe (h : x.Cabe) :
    Kernel.serializarInstancia x = .ok x.campos.flatten := by
  rw [Kernel.serializarInstancia, Kernel.tamanio_eq h, ok_bind]
  exact empaquetar_of_eq (toInt_pedidos h)

theorem Kernel.finalizacionCarpincho_eq (unPID : Int32) (u : SinIniciar) :
    Kernel.finalizacionCarpincho unPID u =
      .ok (Kernel.instanciaFinal unPID u).campos.flatten := by
  have hcabe : (Kernel.instanciaFinal unPID u).Cabe := by
    change 13 * sizeofInt + ((1 : Int32).toInt + (1 : Int32).toInt + (1 : Int32).toInt) < 2 ^ 31
    decide
  rw [Kernel.finalizacionCarpincho, Kernel.tamanio_eq hcabe, ok_bind]
  exact empaquetar_of_eq (toInt_pedidos hcabe)

end Codificadores

section Decodificadores

variable {x : MateInstance} {resto : List UInt8}

def acuse (x : MateInstance) : MateInstance × List UInt8 :=
  (x, if x.tipo = inicializacion then bytesInt 0 else [])

theorem Kernel.recibir_campos (x : MateInstance) (hllena : x.nombreIo.bytes ++ resto ≠ []) :
    recibir Kernel.deserializarInstancia (x.campos.flatten ++ resto) = .ok (acuse x, resto) := by
  simp only [recibir, recibirOperacion, MateInstance.campos, List.flatten_cons, List.flatten_nil,
    List.append_assoc, List.append_nil, recvInt_append, ok_bind, if_true,
    Kernel.deserializarInstancia, recvCadena_append_int, recvCadena_append _ hllena, acuse]

theorem Memoria.recibir_campos (x : MateInstance) (hllena : x.nombreIo.bytes ++ resto ≠ []) :
    recibir Memoria.deserializarInstancia (x.campos.flatten ++ resto) = .ok (x, resto) := by
  simp only [recibir, recibirOperacion, MateInstance.campos, List.flatten_cons, List.flatten_nil,
    List.append_assoc, List.append_nil, recvInt_append, ok_bind, if_true,
    Memoria.deserializarInstancia, recvCadena_append_int, recvCadena_append _ hllena]

/-- The last read of a message that ends in an empty string waits for the next one. -/
theorem Memoria.recibir_sin_nombre (h : x.nombreIo.bytes = []) :
    recibir Memoria.deserializarInstancia x.campos.flatten = .error .esperando := by
  simp only [recibir, recibirOperacion, MateInstance.campos, List.flatten_cons, List.flatten_nil,
    List.append_nil, recvInt_append, ok_bind, if_true, Memoria.deserializarInstancia,
    recvCadena_append_int, h]
  rw [← List.append_nil (bytesInt x.nombreIo.longitud), recvInt_append, ok_bind]
  simp only [recvCadena_nil, error_bind]

end Decodificadores

section IdaYVuelta

/-- The bytes of the library for a sequence of instances are read by the kernel and by the
memory module as that sequence, to the last one, and the kernel sends the same bytes for the
instances that it has read. -/
def IdaYVuelta (xs : List MateInstance) : Prop :=
  ∃ mensajes, xs.mapM Matelib.serializarInstancia = .ok mensajes ∧
    (∃ leidas, recibirVarios Kernel.deserializarInstancia xs.length mensajes.flatten =
        .ok (leidas, []) ∧
      leidas.map Prod.fst = xs ∧
      (leidas.map Prod.fst).mapM Kernel.serializarInstancia = .ok mensajes) ∧
    recibirVarios Memoria.deserializarInstancia xs.length mensajes.flatten = .ok (xs, [])

def FinalLeido : Prop :=
  ∀ (unPID : Int32) (u : SinIniciar) (resto : List UInt8), ∃ mensaje,
    Kernel.finalizacionCarpincho unPID u = .ok mensaje ∧
    recibir Memoria.deserializarInstancia (mensaje ++ resto) =
      .ok (Kernel.instanciaFinal unPID u, resto)

/-- The format of a sequence of instances and of the end of a process. -/
structure CumpleFormato (xs : List MateInstance) : Prop where
  ida_y_vuelta : IdaYVuelta xs
  final_leido : FinalLeido

variable {α : Type} {xs : List MateInstance}
  {deserializar : List UInt8 → Except Falla (α × List UInt8)} {leida : MateInstance → α}

theorem recibirVarios_campos
    (hleer : ∀ x resto, x.nombreIo.bytes ++ resto ≠ [] →
      recibir deserializar (x.campos.flatten ++ resto) = .ok (leida x, resto))
    (xs : List MateInstance) {resto : List UInt8} (hresto : resto ≠ []) :
    recibirVarios deserializar xs.length ((xs.map fun x => x.campos.flatten).flatten ++ resto) =
      .ok (xs.map leida, resto) := by
  unfold recibirVarios
  induction xs with
  | nil => rfl
  | cons x xs ih =>
    have hllena :
        x.nombreIo.bytes ++ ((xs.map fun x => x.campos.flatten).flatten ++ resto) ≠ [] := by
      simp [hresto]
    simp only [List.length_cons, List.replicate_succ, List.map_cons, List.flatten_cons, run,
      List.append_assoc, hleer _ _ hllena, ok_bind, ih]

theorem MateInstance.campos_ne_nil (x : MateInstance) : x.campos.flatten ≠ [] := by
  have hlargo := x.length_campos
  have hnonneg := x.largo_nonneg
  have hint : sizeofInt = 4 := rfl
  refine List.ne_nil_of_length_pos ?_
  omega

theorem recibirVarios_concat
    (hleer : ∀ x resto, x.nombreIo.bytes ++ resto ≠ [] →
      recibir deserializar (x.campos.flatten ++ resto) = .ok (leida x, resto))
    (xs : List MateInstance) (x : MateInstance) :
    recibirVarios deserializar (xs ++ [x]).length
        ((xs ++ [x]).map fun x => x.campos.flatten).flatten = (do
      let (y, flujo) ← recibir deserializar x.campos.flatten
      .ok (xs.map leida ++ [y], flujo)) := by
  have hprimeras := recibirVarios_campos hleer xs x.campos_ne_nil
  unfold recibirVarios at hprimeras ⊢
  rw [List.length_append, List.length_singleton, List.replicate_succ', List.map_append,
    List.flatten_append, run_append, List.map_singleton, List.flatten_singleton, hprimeras, ok_bind]
  dsimp only [run]
  cases recibir deserializar x.campos.flatten <;> rfl

/-- The last string of the last instance has a byte. -/
def TerminaEnByte (xs : List MateInstance) : Prop :=
  ∀ x, xs.getLast? = some x → x.nombreIo.longitud ≠ 0

theorem Cadena.bytes_eq_nil_iff (c : Cadena) : c.bytes = [] ↔ c.longitud = 0 := by
  have hlargo := c.length_bytes
  rw [← List.length_eq_zero_iff, ← Int32.toInt_inj]
  have hcero : (0 : Int32).toInt = 0 := rfl
  omega

theorem recibirVarios_todas
    (hleer : ∀ x resto, x.nombreIo.bytes ++ resto ≠ [] →
      recibir deserializar (x.campos.flatten ++ resto) = .ok (leida x, resto))
    (h : TerminaEnByte xs) :
    recibirVarios deserializar xs.length (xs.map fun x => x.campos.flatten).flatten =
      .ok (xs.map leida, []) := by
  rcases xs.eq_nil_or_concat' with rfl | ⟨ys, y, rfl⟩
  · rfl
  · have hy : y.nombreIo.bytes ++ [] ≠ [] := by
      rw [List.append_nil, Ne, Cadena.bytes_eq_nil_iff]
      exact h y (List.getLast?_concat ..)
    have hultima := hleer y [] hy
    rw [List.append_nil] at hultima
    rw [recibirVarios_concat hleer, hultima, ok_bind, List.map_append, List.map_singleton]

/-- A sequence that the memory module reads to the end ends in a byte. -/
theorem terminaEnByte_of_recibirVarios {leidas : List MateInstance}
    (h : recibirVarios Memoria.deserializarInstancia xs.length
      (xs.map fun x => x.campos.flatten).flatten = .ok (leidas, [])) : TerminaEnByte xs := by
  rcases xs.eq_nil_or_concat' with rfl | ⟨ys, y, rfl⟩
  · intro x hx
    cases hx
  · intro x hx hcero
    obtain rfl : y = x := Option.some.inj ((List.getLast?_concat ..).symm.trans hx)
    have hvacia := y.nombreIo.bytes_eq_nil_iff.2 hcero
    rw [recibirVarios_concat (fun x resto => Memoria.recibir_campos x),
      Memoria.recibir_sin_nombre hvacia, error_bind] at h
    cases h

theorem mapM_of_forall {serializar : MateInstance → Except Falla (List UInt8)}
    (h : ∀ x ∈ xs, serializar x = .ok x.campos.flatten) :
    xs.mapM serializar = .ok (xs.map fun x => x.campos.flatten) := by
  induction xs with
  | nil => rfl
  | cons x xs ih =>
    have hx := h x (by simp)
    have hxs := ih fun y hy => h y (List.mem_cons_of_mem _ hy)
    rw [List.mapM_cons, hx, ok_bind, hxs, ok_bind]
    rfl

theorem cabe_of_mapM {mensajes : List (List UInt8)}
    (h : xs.mapM Matelib.serializarInstancia = .ok mensajes) : ∀ x ∈ xs, x.Cabe := by
  induction xs generalizing mensajes with
  | nil => simp
  | cons x xs ih =>
    rw [List.mapM_cons] at h
    obtain ⟨m, hm, h⟩ := bind_eq_ok.1 h
    obtain ⟨ms, hms, -⟩ := bind_eq_ok.1 h
    intro y hy
    rcases List.mem_cons.1 hy with rfl | hy
    · rw [Matelib.serializarInstancia_eq] at hm
      exact cabe_of_empaquetar hm
    · exact ih hms y hy

theorem final_leido : FinalLeido := by
  intro unPID u resto
  refine ⟨_, Kernel.finalizacionCarpincho_eq unPID u, Memoria.recibir_campos _ ?_⟩
  simp [Kernel.instanciaFinal, Cadena.unByte]

theorem ida_y_vuelta_of_cabe (h : ∀ x ∈ xs, x.Cabe) (hfin : TerminaEnByte xs) :
    IdaYVuelta xs := by
  have hmatelib := mapM_of_forall fun x hx => Matelib.serializarInstancia_of_cabe (h x hx)
  have hkernel := mapM_of_forall fun x hx => Kernel.serializarInstancia_of_cabe (h x hx)
  have hleidas := recibirVarios_todas (fun x resto => Kernel.recibir_campos x) hfin
  have hmemoria := recibirVarios_todas (fun x resto => Memoria.recibir_campos x) hfin
  have hfst : (xs.map acuse).map Prod.fst = xs := by
    rw [List.map_map]
    exact List.map_id xs
  rw [List.map_id'] at hmemoria
  refine ⟨_, hmatelib, ⟨_, hleidas, hfst, ?_⟩, hmemoria⟩
  rw [hfst]
  exact hkernel

/-- The format serves for a sequence exactly when the size of the block that is asked for
each of its instances fits in an `int`, and the last instance does not end in an empty
string, whose read waits for more. -/
theorem cumpleFormato_iff (xs : List MateInstance) :
    CumpleFormato xs ↔ (∀ x ∈ xs, x.Cabe) ∧ TerminaEnByte xs := by
  constructor
  · rintro ⟨⟨mensajes, hmensajes, -, hmemoria⟩, -⟩
    have hcabe := cabe_of_mapM hmensajes
    have henviados := mapM_of_forall fun x hx => Matelib.serializarInstancia_of_cabe (hcabe x hx)
    cases hmensajes.symm.trans henviados
    exact ⟨hcabe, terminaEnByte_of_recibirVarios hmemoria⟩
  · rintro ⟨hcabe, hfin⟩
    exact ⟨ida_y_vuelta_of_cabe hcabe hfin, final_leido⟩

def escrituraEnorme : MateInstance where
  tipo := memoria
  sema := ⟨0, 0, Cadena.unByte 0⟩
  pid := 1
  estado := 0
  memoria := ⟨⟨2147483647, List.replicate 2147483647 0, by rw [List.length_replicate]; rfl⟩, 0, 3⟩
  nombreIo := Cadena.unByte 0

/-- The library asks for a negative number of bytes. -/
theorem formato_sin_bloque :
    Matelib.serializarInstancia escrituraEnorme = .error .punteroNulo ∧
      ¬ ∀ xs, CumpleFormato xs := by
  have htamanio : (Matelib.tamanio escrituraEnorme).toInt < 0 := by
    change (Int32.ofInt ((1 : Int32).toInt + (2147483647 : Int32).toInt + sizeofInt +
      6 * sizeofInt + sizeofInt + sizeofInt + sizeofInt + sizeofInt + sizeofInt + sizeofInt +
      (1 : Int32).toInt)).toInt < 0
    decide
  have hfalla : Matelib.serializarInstancia escrituraEnorme = .error .punteroNulo := by
    rw [Matelib.serializarInstancia, malloc_of_neg htamanio, error_bind]
  refine ⟨hfalla, fun h => ?_⟩
  obtain ⟨⟨mensajes, hmensajes, -⟩, -⟩ := h [escrituraEnorme]
  rw [List.mapM_cons, hfalla, error_bind] at hmensajes
  cases hmensajes

end IdaYVuelta

end Carpinchos.Formato
