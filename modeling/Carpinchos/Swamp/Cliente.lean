import Carpinchos.Swamp.Servidor

/-!
# Requests on the connection to SWAmP

The memory module writes its requests with `enviar_paquete_swamp`; the loop of
`server_atender_cliente` reads an operation code and each operation reads its own fields.
`recv` returns the number of bytes that it is asked for.
-/

namespace Carpinchos.Swamp

open Outcome Wire

structure Entero where
  valor : ℤ
  valor_ge : -2 ^ 31 ≤ valor
  valor_lt : valor < 2 ^ 31

structure Cadena where
  bytes : List UInt8
  bytes_ne : ∀ b ∈ bytes, b ≠ 0
  largo_lt : bytes.length + 1 < 2 ^ 31

/-- What the memory module sends: `enviar_tipo_asignacion`,
`enviar_consulta_puede_escribir_en_swap`, `enviar_escritura_swap` and `lectura_swamp`.
The last one leaves part of its buffer uninitialised. -/
inductive Envio
  | tipoAsignacion (tipo : String)
  | consulta (pid cantPag : Entero)
  | escritura (pid pagina : Entero) (msg : Cadena)
  | lectura (pid pagina : Entero) (basura : ℕ → UInt8)

section Envios

/-- The number that stands for `tipo_asignacion`. -/
def asignacion (tipo : String) : ℤ :=
  if tipo = "FIJA" then fija else if tipo = "DINAMICA" then global else -1

/-- `enviar_paquete_swamp`: the operation code, the size of the buffer and the buffer. -/
def enviarPaqueteSwamp (stream : List UInt8) (codigoOperacion : CodOp) : List UInt8 :=
  encodeInt32 codigoOperacion.valor ++ (encode 4 stream.length ++ stream)

def serializarEscrituraSwap (pid pagina : Entero) (msg : Cadena) : List UInt8 :=
  encodeInt32 pid.valor ++ (encodeInt32 pagina.valor ++
    (encodeInt32 (msg.bytes.length + 1 : ℕ) ++ (msg.bytes ++ [0])))

/-- The bytes sent. The buffer of `lectura_swamp` has twelve bytes, of which two integers
fill eight. -/
def Envio.bytes : Envio → List UInt8
  | .tipoAsignacion tipo => enviarPaqueteSwamp (encodeInt32 (asignacion tipo)) .casoAsignacion
  | .consulta pid cantPag =>
    enviarPaqueteSwamp (encodeInt32 pid.valor ++ encodeInt32 cantPag.valor) .puedeEscribir
  | .escritura pid pagina msg =>
    enviarPaqueteSwamp (serializarEscrituraSwap pid pagina msg) .escribir
  | .lectura pid pagina basura =>
    enviarPaqueteSwamp
      (encodeInt32 pid.valor ++ (encodeInt32 pagina.valor ++ (List.range 4).map basura)) .leer

def Envio.peticion : Envio → Peticion
  | .tipoAsignacion tipo => .casoAsignacion (asignacion tipo)
  | .consulta pid cantPag => .puedeEscribir pid.valor cantPag.valor
  | .escritura pid pagina msg => .escribir pid.valor pagina.valor (msg.bytes ++ [0])
  | .lectura pid pagina _ => .leer pid.valor pagina.valor

def Envio.esLectura : Envio → Bool
  | .lectura _ _ _ => true
  | _ => false

def flujo (envios : List Envio) : List UInt8 := envios.flatMap Envio.bytes

end Envios

section Servidor

def recibirInt (flujo : List UInt8) : Option (ℤ × List UInt8) := do
  let (bytes, flujo) ← takeExact 4 flujo
  some (decodeInt32 bytes, flujo)

def CodOp.deValor (codigoOp : ℤ) : Option CodOp :=
  if codigoOp = 11 then some .leer
  else if codigoOp = 12 then some .escribir
  else if codigoOp = 13 then some .puedeEscribir
  else if codigoOp = 14 then some .casoAsignacion
  else none

/-- The reads of `leer_swap`, `escribir_swap`, `puede_escribir` and of the case
CASO_ASIGNACION. None of them uses the size of the buffer. A negative size makes the
`malloc` of `escribir_swap` fail. -/
def recibirPeticion (codOp : CodOp) (flujo : List UInt8) : Option (Peticion × List UInt8) := do
  let (_, flujo) ← takeExact 4 flujo
  match codOp with
  | .leer =>
    let (pid, flujo) ← recibirInt flujo
    let (indicePagina, flujo) ← recibirInt flujo
    some (.leer pid indicePagina, flujo)
  | .escribir =>
    let (pid, flujo) ← recibirInt flujo
    let (indicePagina, flujo) ← recibirInt flujo
    let (tamanio, flujo) ← recibirInt flujo
    if tamanio < 0 then none
    else
      let (buffer, flujo) ← takeExact tamanio.toNat flujo
      some (.escribir pid indicePagina buffer, flujo)
  | .puedeEscribir =>
    let (pid, flujo) ← recibirInt flujo
    let (cantPaginas, flujo) ← recibirInt flujo
    some (.puedeEscribir pid cantPaginas, flujo)
  | .casoAsignacion =>
    let (caso, flujo) ← recibirInt flujo
    some (.casoAsignacion caso, flujo)

/-- `server_atender_cliente` up to the point where it waits for bytes that do not come: each
operation, with the bytes that it leaves unread. Every turn takes bytes off the stream, so
that as many turns as bytes are enough. -/
def serverAtenderCliente : ℕ → List UInt8 → List (Peticion × List UInt8)
  | 0, _ => []
  | turnos + 1, flujo =>
    match recibirInt flujo with
    | none => []
    | some (codigoOp, flujo) =>
      match CodOp.deValor codigoOp with
      | none => serverAtenderCliente turnos flujo
      | some codOp =>
        match recibirPeticion codOp flujo with
        | none => []
        | some (peticion, flujo) => (peticion, flujo) :: serverAtenderCliente turnos flujo

/-- Each operation is the one that was sent and leaves unread only the requests after it. -/
def esperados : List Envio → List (Peticion × List UInt8)
  | [] => []
  | e :: es => (e.peticion, flujo es) :: esperados es

end Servidor

section Respuesta

/-- What `lectura_swamp` reads of the replies: `none` is the result -1. -/
def lecturaSwamp (tamanioPagina : ℕ) (flujo : List UInt8) :
    Option (Option (List UInt8) × List UInt8) := do
  let (pid, flujo) ← recibirInt flujo
  if pid = -1 then some (none, flujo)
  else
    let (_, flujo) ← recibirInt flujo
    let (_, flujo) ← recibirInt flujo
    let (contenidoLectura, flujo) ← takeExact tamanioPagina flujo
    some (some contenidoLectura, flujo)

end Respuesta

section Lecturas

variable {resto : List UInt8}

theorem recibirInt_append {bytes : List UInt8} (h : bytes.length = 4) (resto : List UInt8) :
    recibirInt (bytes ++ resto) = some (decodeInt32 bytes, resto) := by
  rw [recibirInt, takeExact_append h]
  rfl

theorem recibirInt_entero (x : Entero) (resto : List UInt8) :
    recibirInt (encodeInt32 x.valor ++ resto) = some (x.valor, resto) := by
  rw [recibirInt_append (length_encodeInt32 _), decodeInt32_encodeInt32 x.valor_ge x.valor_lt]

theorem recibirInt_codOp (codOp : CodOp) (resto : List UInt8) :
    recibirInt (encodeInt32 codOp.valor ++ resto) = some (codOp.valor, resto) := by
  rw [recibirInt_append (length_encodeInt32 _), decodeInt32_encodeInt32] <;>
    cases codOp <;> decide

theorem CodOp.deValor_valor (codOp : CodOp) : CodOp.deValor codOp.valor = some codOp := by
  cases codOp <;> rfl

theorem recibirInt_asignacion (tipo : String) (resto : List UInt8) :
    recibirInt (encodeInt32 (asignacion tipo) ++ resto) = some (asignacion tipo, resto) := by
  rw [recibirInt_append (length_encodeInt32 _), decodeInt32_encodeInt32]
  · unfold asignacion fija global
    split <;> [decide; (split <;> decide)]
  · unfold asignacion fija global
    split <;> [decide; (split <;> decide)]

def Envio.sobra : Envio → List UInt8
  | .lectura _ _ basura => (List.range 4).map basura
  | _ => []

/-- A request is received as it was meant, and the bytes that `lectura_swamp` sends in excess
stay in the stream. -/
theorem recibirPeticion_bytes (e : Envio) (resto : List UInt8) : ∃ codOp flujo,
    recibirInt (e.bytes ++ resto) = some (CodOp.valor codOp, flujo) ∧
      recibirPeticion codOp flujo = some (e.peticion, e.sobra ++ resto) := by
  have hpaquete : ∀ (stream : List UInt8) (codOp : CodOp),
      recibirPeticion codOp (encode 4 stream.length ++ (stream ++ resto)) =
        some (e.peticion, e.sobra ++ resto) →
      e.bytes = enviarPaqueteSwamp stream codOp →
      ∃ codOp flujo, recibirInt (e.bytes ++ resto) = some (CodOp.valor codOp, flujo) ∧
        recibirPeticion codOp flujo = some (e.peticion, e.sobra ++ resto) := by
    intro stream codOp h hbytes
    refine ⟨codOp, _, ?_, h⟩
    rw [hbytes, enviarPaqueteSwamp, List.append_assoc, List.append_assoc, recibirInt_codOp]
  cases e with
  | tipoAsignacion tipo =>
    refine hpaquete _ _ ?_ rfl
    simp only [recibirPeticion, takeExact_append (length_encode 4 _), Option.bind_eq_bind,
      Option.bind_some, recibirInt_asignacion, Envio.peticion, Envio.sobra, List.nil_append]
  | consulta pid cantPag =>
    refine hpaquete _ _ ?_ rfl
    simp only [recibirPeticion, takeExact_append (length_encode 4 _), Option.bind_eq_bind,
      Option.bind_some, List.append_assoc, recibirInt_entero, Envio.peticion, Envio.sobra,
      List.nil_append]
  | escritura pid pagina msg =>
    refine hpaquete _ _ ?_ rfl
    have hlargo := msg.largo_lt
    have hint : ∀ resto, recibirInt (encodeInt32 (msg.bytes.length + 1 : ℕ) ++ resto) =
        some (((msg.bytes.length + 1 : ℕ) : ℤ), resto) := by
      intro resto
      rw [recibirInt_append (length_encodeInt32 _),
        decodeInt32_encodeInt32 (by omega) (by omega)]
    have hno : ¬ ((msg.bytes.length + 1 : ℕ) : ℤ) < 0 := by omega
    have hmsg : takeExact (msg.bytes.length + 1) (msg.bytes ++ ([0] ++ resto)) =
        some (msg.bytes ++ [0], resto) := by
      rw [← List.append_assoc]
      exact takeExact_append (by simp)
    simp only [recibirPeticion, takeExact_append (length_encode 4 _), Option.bind_eq_bind,
      Option.bind_some, serializarEscrituraSwap, List.append_assoc, recibirInt_entero, hint,
      if_neg hno, Int.toNat_natCast, hmsg, Envio.peticion, Envio.sobra, List.nil_append]
  | lectura pid pagina basura =>
    refine hpaquete _ _ ?_ rfl
    simp only [recibirPeticion, takeExact_append (length_encode 4 _), Option.bind_eq_bind,
      Option.bind_some, List.append_assoc, recibirInt_entero, Envio.peticion, Envio.sobra]

theorem serverAtenderCliente_bytes (turnos : ℕ) (e : Envio) (resto : List UInt8) :
    serverAtenderCliente (turnos + 1) (e.bytes ++ resto) =
      (e.peticion, e.sobra ++ resto) :: serverAtenderCliente turnos (e.sobra ++ resto) := by
  obtain ⟨codOp, flujo, hint, hpeticion⟩ := recibirPeticion_bytes e resto
  rw [serverAtenderCliente, hint]
  simp only [CodOp.deValor_valor, hpeticion]

end Lecturas

section Flujo

theorem Envio.sobra_eq_nil (e : Envio) : e.sobra = [] ↔ e.esLectura = false := by
  cases e <;> simp [Envio.sobra, Envio.esLectura]

theorem atender_eq_esperados_iff (envios : List Envio) {turnos : ℕ} (h : envios.length ≤ turnos) :
    serverAtenderCliente turnos (flujo envios) = esperados envios ↔
      ∀ e ∈ envios, e.esLectura = false := by
  induction envios generalizing turnos with
  | nil => cases turnos <;> simp [serverAtenderCliente, flujo, esperados, recibirInt, takeExact]
  | cons e es ih =>
    obtain ⟨turnos, rfl⟩ := Nat.exists_eq_add_of_le' (show 1 ≤ turnos by simp at h; omega)
    have hflujo : flujo (e :: es) = e.bytes ++ flujo es := List.flatMap_cons
    rw [hflujo, serverAtenderCliente_bytes, esperados, List.cons.injEq, Prod.mk.injEq,
      List.forall_mem_cons, ← e.sobra_eq_nil]
    have hlargo : es.length ≤ turnos := by simpa using h
    constructor
    · rintro ⟨⟨-, hsobra⟩, hresto⟩
      have hvacia : e.sobra = [] := List.append_left_eq_self.1 hsobra
      rw [hvacia, List.nil_append] at hresto
      exact ⟨hvacia, (ih hlargo).1 hresto⟩
    · rintro ⟨hvacia, hes⟩
      rw [hvacia, List.nil_append]
      exact ⟨⟨rfl, rfl⟩, (ih hlargo).2 hes⟩

theorem length_enviarPaqueteSwamp (stream : List UInt8) (codOp : CodOp) :
    (enviarPaqueteSwamp stream codOp).length = 8 + stream.length := by
  simp only [enviarPaqueteSwamp, List.length_append, length_encodeInt32, length_encode]
  omega

theorem Envio.length_bytes_pos (e : Envio) : 1 ≤ e.bytes.length := by
  cases e <;>
    (rw [Envio.bytes, length_enviarPaqueteSwamp]; omega)

theorem length_le_flujo (envios : List Envio) : envios.length ≤ (flujo envios).length := by
  induction envios with
  | nil => simp
  | cons e es ih =>
    have he := e.length_bytes_pos
    simp only [flujo, List.flatMap_cons, List.length_append, List.length_cons] at ih ⊢
    omega

/-- SWAmP dispatches exactly the requests of the memory module, and has read each of them to
its end, exactly when none of them is a `lectura_swamp`. -/
theorem despacha_iff (envios : List Envio) :
    serverAtenderCliente (flujo envios).length (flujo envios) = esperados envios ↔
      ∀ e ∈ envios, e.esLectura = false :=
  atender_eq_esperados_iff envios (length_le_flujo envios)

/-- After a single `lectura_swamp` four bytes stay unread. -/
theorem no_despacha :
    ¬ ∀ envios : List Envio,
      serverAtenderCliente (flujo envios).length (flujo envios) = esperados envios := by
  intro h
  have hlectura := h [.lectura ⟨1, by decide, by decide⟩ ⟨1, by decide, by decide⟩ fun _ => 0]
  rw [show (flujo [.lectura ⟨1, by decide, by decide⟩ ⟨1, by decide, by decide⟩
    fun _ => 0]).length = 20 from rfl] at hlectura
  revert hlectura
  decide +kernel

end Flujo

end Carpinchos.Swamp
