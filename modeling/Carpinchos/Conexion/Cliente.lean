import Carpinchos.Conexion.Formato

/-!
# The instance of a carpincho in the library

The functions of the library fill one shared instance and send all of it. An instance keeps each
length apart from the block that it is the length of: the functions that name a semaphore or a
device replace both, `mate_memwrite` replaces the length and the block of the memory part, but
`mate_memalloc` and `mate_memread` write the number of bytes that they ask for over the
length alone.
-/

namespace Carpinchos.Cliente

open Outcome Formato

section Instancia

/-- A block of bytes has its own length, whatever `longitud` says. -/
structure Bloque where
  longitud : Int32
  bytes : List UInt8
  deriving DecidableEq, Repr

structure Semaforo where
  operacion : Int32
  valor : Int32
  nombreSem : Bloque
  deriving DecidableEq, Repr

/-- `size` is the length kept for `valor`. -/
structure MateMemory where
  addr : Int32
  tipoOp : Int32
  valor : Bloque
  deriving DecidableEq, Repr

structure Carpincho where
  tipo : Int32
  estado : Int32
  pid : Int32
  sema : Semaforo
  memoria : MateMemory
  nombreIo : Bloque
  deriving DecidableEq, Repr

/-- The length is one that can be copied out of the block. -/
def Bloque.Contiene (b : Bloque) : Prop :=
  0 ≤ b.longitud.toInt ∧ b.longitud.toInt ≤ b.bytes.length

structure Carpincho.Respaldado (c : Carpincho) : Prop where
  nombreSem : c.sema.nombreSem.Contiene
  valor : c.memoria.valor.Contiene
  nombreIo : c.nombreIo.Contiene

/-- `memcpy` out of a block; a negative length is a huge one. -/
def Bloque.copiar (b : Bloque) : Except Falla Cadena :=
  if h : 0 ≤ b.longitud.toInt ∧ b.longitud.toInt ≤ b.bytes.length then
    .ok ⟨b.longitud, b.bytes.take b.longitud.toInt.toNat, by
      rw [List.length_take]
      omega⟩
  else .error .fueraDelBloque

/-- `serializar_instancia`, up to the bytes that it sends. -/
def serializarInstancia (c : Carpincho) : Except Falla (List UInt8) := do
  let nombreSem ← c.sema.nombreSem.copiar
  let valor ← c.memoria.valor.copiar
  let nombreIo ← c.nombreIo.copiar
  Matelib.serializarInstancia
    { tipo := c.tipo
      sema := ⟨c.sema.operacion, c.sema.valor, nombreSem⟩
      pid := c.pid
      estado := c.estado
      memoria := ⟨valor, c.memoria.addr, c.memoria.tipoOp⟩
      nombreIo := nombreIo }

end Instancia

section Funciones

/-- The `int` in which `strlen` plus one is kept. -/
def longitudDe (nombre : List UInt8) : Int32 := Int32.ofNat (nombre.length + 1)

def bloqueDe (nombre : List UInt8) : Bloque := ⟨longitudDe nombre, nombre ++ [0]⟩

/-- What the blocks of a new instance happen to hold. -/
structure SinIniciar where
  operacion : Int32
  valorSem : Int32
  nombreSem : UInt8
  addr : Int32
  tipoOp : Int32
  valor : UInt8
  nombre : UInt8
  deriving DecidableEq, Repr

def mateInit (pid : Int32) (u : SinIniciar) : Carpincho where
  tipo := 3
  estado := 0
  pid := pid
  sema := ⟨u.operacion, u.valorSem, ⟨1, [u.nombreSem]⟩⟩
  memoria := ⟨u.addr, u.tipoOp, ⟨1, [u.valor]⟩⟩
  nombreIo := ⟨1, [u.nombre]⟩

variable (c : Carpincho)

/-- The four functions on semaphores. -/
def conSemaforo (operacion : Int32) (sem : List UInt8) : Carpincho :=
  { c with tipo := 2, sema := { c.sema with operacion := operacion, nombreSem := bloqueDe sem } }

def mateSemInit (sem : List UInt8) (value : UInt32) : Carpincho :=
  { conSemaforo c 0 sem with sema := ⟨0, value.toInt32, bloqueDe sem⟩ }

def mateSemWait (sem : List UInt8) : Carpincho := conSemaforo c 1 sem

def mateSemPost (sem : List UInt8) : Carpincho := conSemaforo c 2 sem

def mateSemDestroy (sem : List UInt8) : Carpincho := conSemaforo c 3 sem

/-- The block is as long as the `int` says, and takes only that much of the name. -/
def mateCallIo (io : List UInt8) : Except Falla Carpincho := do
  let bloque ← malloc (longitudDe io)
  .ok { c with tipo := 1, nombreIo := ⟨longitudDe io, (io ++ [0]).take bloque⟩ }

def mateMemalloc (size : Int32) : Carpincho :=
  { c with
    tipo := 0
    memoria := { c.memoria with tipoOp := 0, valor := { c.memoria.valor with longitud := size } } }

def mateMemfree (addr : Int32) : Carpincho :=
  { c with tipo := 0, memoria := { c.memoria with addr := addr, tipoOp := 1 } }

def mateMemread (origin size : Int32) : Carpincho :=
  { c with
    tipo := 0
    memoria := ⟨origin, 2, { c.memoria.valor with longitud := size }⟩ }

/-- `origin` is what the memory of the carpincho holds from there on. -/
def mateMemwrite (origin : ℕ → UInt8) (dest size : Int32) : Except Falla Carpincho := do
  let valor ← malloc size
  .ok { c with tipo := 0, memoria := ⟨dest, 3, ⟨size, (List.range valor).map origin⟩⟩ }

end Funciones

section Corridas

inductive Llamada
  | mateInit (pid : Int32) (u : SinIniciar)
  | mateSemInit (sem : List UInt8) (value : UInt32)
  | mateSemWait (sem : List UInt8)
  | mateSemPost (sem : List UInt8)
  | mateSemDestroy (sem : List UInt8)
  | mateCallIo (io : List UInt8)
  | mateMemalloc (size : Int32)
  | mateMemfree (addr : Int32)
  | mateMemread (origin size : Int32)
  | mateMemwrite (origin : ℕ → UInt8) (dest size : Int32)

/-- The instance when `serializar_instancia` runs. Only `mate_init` can do without one. -/
def llamar : Llamada → Option Carpincho → Except Falla Carpincho
  | .mateInit pid u, _ => .ok (mateInit pid u)
  | _, none => .error .punteroNulo
  | .mateSemInit sem value, some c => .ok (mateSemInit c sem value)
  | .mateSemWait sem, some c => .ok (mateSemWait c sem)
  | .mateSemPost sem, some c => .ok (mateSemPost c sem)
  | .mateSemDestroy sem, some c => .ok (mateSemDestroy c sem)
  | .mateCallIo io, some c => mateCallIo c io
  | .mateMemalloc size, some c => .ok (mateMemalloc c size)
  | .mateMemfree addr, some c => .ok (mateMemfree c addr)
  | .mateMemread origin size, some c => .ok (mateMemread c origin size)
  | .mateMemwrite origin dest size, some c => mateMemwrite c origin dest size

def serializadas : Option Carpincho → List Llamada → List Carpincho
  | _, [] => []
  | o, x :: xs =>
    match llamar x o with
    | .ok c => c :: serializadas (some c) xs
    | .error _ => []

end Corridas

section Prudencia

/-- The call gets to `serializar_instancia`: a block of a negative length cannot be had. -/
def Llamada.Llega : Llamada → Prop
  | .mateCallIo io => 0 ≤ (longitudDe io).toInt
  | .mateMemwrite _ _ size => 0 ≤ size.toInt
  | _ => True

/-- What the memory part may be asked for is as long as what it holds, and the length of a name
can be kept in an `int`. -/
def Llamada.Prudente (largo : ℕ) : Llamada → Prop
  | .mateSemInit sem _ | .mateSemWait sem | .mateSemPost sem | .mateSemDestroy sem =>
    0 ≤ (longitudDe sem).toInt
  | .mateMemalloc size | .mateMemread _ size => 0 ≤ size.toInt ∧ size.toInt ≤ largo
  | _ => True

def Llamada.largoValor (largo : ℕ) : Llamada → ℕ
  | .mateInit _ _ => 1
  | .mateMemwrite _ _ size => size.toInt.toNat
  | _ => largo

def Prudentes : ℕ → List Llamada → Prop
  | _, [] => True
  | largo, x :: xs => x.Llega → x.Prudente largo ∧ Prudentes (x.largoValor largo) xs

variable {c : Carpincho}

theorem longitudDe_le (nombre : List UInt8) : (longitudDe nombre).toInt ≤ nombre.length + 1 := by
  rw [longitudDe, Int32.toInt_ofNat', Int32.size, Int.bmod]
  split
  · omega
  · omega

theorem bloqueDe_contiene (nombre : List UInt8) :
    (bloqueDe nombre).Contiene ↔ 0 ≤ (longitudDe nombre).toInt := by
  refine ⟨fun h => h.1, fun h => ⟨h, ?_⟩⟩
  have hle := longitudDe_le nombre
  simpa [bloqueDe] using hle

theorem unByte_contiene (b : UInt8) : Bloque.Contiene ⟨1, [b]⟩ := by
  have huno : (0 : ℤ) ≤ (1 : Int32).toInt := by decide
  exact ⟨huno, le_rfl⟩

theorem mateInit_respaldado (pid : Int32) (u : SinIniciar) : (mateInit pid u).Respaldado :=
  ⟨unByte_contiene _, unByte_contiene _, unByte_contiene _⟩

theorem mateCallIo_ok {io : List UInt8} (h : 0 ≤ (longitudDe io).toInt) (c : Carpincho) :
    mateCallIo c io = .ok { c with
      tipo := 1, nombreIo := ⟨longitudDe io, (io ++ [0]).take (longitudDe io).toInt.toNat⟩ } := by
  rw [mateCallIo, malloc_of_nonneg h, ok_bind]

theorem mateMemwrite_ok {size : Int32} (h : 0 ≤ size.toInt) (c : Carpincho) (origin : ℕ → UInt8)
    (dest : Int32) : mateMemwrite c origin dest size = .ok { c with
      tipo := 0
      memoria := ⟨dest, 3, ⟨size, (List.range size.toInt.toNat).map origin⟩⟩ } := by
  rw [mateMemwrite, malloc_of_nonneg h, ok_bind]

theorem respaldado_sema {c' : Carpincho} {sem : List UInt8} (h : c.Respaldado)
    (hsem : c'.sema.nombreSem = bloqueDe sem) (hmemoria : c'.memoria = c.memoria)
    (hio : c'.nombreIo = c.nombreIo) : c'.Respaldado ↔ 0 ≤ (longitudDe sem).toInt := by
  rw [← bloqueDe_contiene, ← hsem]
  exact ⟨fun h' => h'.nombreSem, fun h' => ⟨h', hmemoria ▸ h.valor, hio ▸ h.nombreIo⟩⟩

theorem respaldado_memoria {c' : Carpincho} (h : c.Respaldado) (hsem : c'.sema = c.sema)
    (hio : c'.nombreIo = c.nombreIo) : c'.Respaldado ↔ c'.memoria.valor.Contiene :=
  ⟨fun h' => h'.valor, fun h' => ⟨hsem ▸ h.nombreSem, h', hio ▸ h.nombreIo⟩⟩

/-- A call from an instance whose blocks are long enough keeps them so exactly when it is
prudent. -/
theorem llamar_llega {x : Llamada} (h : c.Respaldado) (hllega : x.Llega) :
    ∃ c', llamar x (some c) = .ok c' ∧
      c'.memoria.valor.bytes.length = x.largoValor c.memoria.valor.bytes.length ∧
      (c'.Respaldado ↔ x.Prudente c.memoria.valor.bytes.length) := by
  cases x with
  | mateInit pid u => exact ⟨_, rfl, rfl, iff_of_true (mateInit_respaldado pid u) trivial⟩
  | mateSemInit sem value => exact ⟨_, rfl, rfl, respaldado_sema h rfl rfl rfl⟩
  | mateSemWait sem => exact ⟨_, rfl, rfl, respaldado_sema h rfl rfl rfl⟩
  | mateSemPost sem => exact ⟨_, rfl, rfl, respaldado_sema h rfl rfl rfl⟩
  | mateSemDestroy sem => exact ⟨_, rfl, rfl, respaldado_sema h rfl rfl rfl⟩
  | mateCallIo io =>
    have hllega' : 0 ≤ (longitudDe io).toInt := hllega
    have hle := longitudDe_le io
    refine ⟨_, mateCallIo_ok hllega' c, rfl,
      iff_of_true ⟨h.nombreSem, h.valor, hllega', ?_⟩ trivial⟩
    simp only [List.length_take, List.length_append, List.length_singleton]
    omega
  | mateMemalloc size => exact ⟨_, rfl, rfl, respaldado_memoria h rfl rfl⟩
  | mateMemfree addr => exact ⟨_, rfl, rfl, iff_of_true ⟨h.nombreSem, h.valor, h.nombreIo⟩ trivial⟩
  | mateMemread origin size => exact ⟨_, rfl, rfl, respaldado_memoria h rfl rfl⟩
  | mateMemwrite origin dest size =>
    have hllega' : 0 ≤ size.toInt := hllega
    refine ⟨_, mateMemwrite_ok hllega' c origin dest, by simp [Llamada.largoValor],
      iff_of_true ⟨h.nombreSem, ⟨hllega', ?_⟩, h.nombreIo⟩ trivial⟩
    simp only [List.length_map, List.length_range]
    omega

theorem llamar_noLlega {x : Llamada} (hno : ¬ x.Llega) (c : Carpincho) :
    llamar x (some c) = .error .punteroNulo := by
  cases x with
  | mateCallIo io =>
    have hneg : (longitudDe io).toInt < 0 := not_le.1 hno
    rw [llamar, mateCallIo, malloc_of_neg hneg, error_bind]
  | mateMemwrite origin dest size =>
    have hneg : size.toInt < 0 := not_le.1 hno
    rw [llamar, mateMemwrite, malloc_of_neg hneg, error_bind]
  | _ => exact absurd trivial hno

theorem serializadas_respaldadas (xs : List Llamada) (h : c.Respaldado) :
    (∀ c' ∈ serializadas (some c) xs, c'.Respaldado) ↔
      Prudentes c.memoria.valor.bytes.length xs := by
  induction xs generalizing c with
  | nil => exact iff_of_true (fun c' hc' => absurd hc' List.not_mem_nil) trivial
  | cons x xs ih =>
    rw [serializadas, Prudentes]
    by_cases hllega : x.Llega
    · obtain ⟨c', hc', hlargo, hprudente⟩ := llamar_llega h hllega
      rw [hc', ← hprudente, ← hlargo]
      simp only [List.forall_mem_cons, hllega, true_imp_iff]
      exact and_congr_right fun h' => ih h'
    · rw [llamar_noLlega hllega]
      exact iff_of_true (fun c' hc' => absurd hc' List.not_mem_nil) fun hsi => absurd hsi hllega

/-- Every instance that is sent has blocks as long as its lengths exactly when the calls after
the first `mate_init` are prudent. -/
theorem respaldados_iff (xs : List Llamada) :
    (∀ c ∈ serializadas none xs, c.Respaldado) ↔
      ∀ pid u ys, xs = .mateInit pid u :: ys → Prudentes 1 ys := by
  cases xs with
  | nil =>
    refine iff_of_true (fun c hc => absurd hc List.not_mem_nil) fun pid u ys heq => ?_
    cases heq
  | cons x xs =>
    rw [serializadas]
    cases x with
    | mateInit pid u =>
      simp only [llamar, List.forall_mem_cons]
      rw [serializadas_respaldadas xs (mateInit_respaldado pid u)]
      constructor
      · rintro ⟨-, h⟩ pid' u' ys heq
        cases heq
        exact h
      · intro h
        exact ⟨mateInit_respaldado pid u, h pid u xs rfl⟩
    | _ =>
      refine iff_of_true (fun c hc => absurd hc List.not_mem_nil) fun pid u ys heq => ?_
      cases heq

/-- A block is asked for before anything has been written. -/
theorem memalloc_sin_respaldo :
    ¬ ∀ xs : List Llamada, ∀ c ∈ serializadas none xs, c.Respaldado := by
  intro hclaim
  have hsegunda := hclaim [.mateInit 1 ⟨0, 0, 0, 0, 0, 0, 0⟩, .mateMemalloc 100]
    (mateMemalloc (mateInit 1 ⟨0, 0, 0, 0, 0, 0, 0⟩) 100)
    (List.mem_cons_of_mem _ (List.mem_singleton_self _))
  exact absurd hsegunda.valor.2 (by decide)

end Prudencia

end Carpinchos.Cliente
