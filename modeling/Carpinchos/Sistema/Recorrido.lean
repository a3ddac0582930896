import Carpinchos.Conexion.Cliente
import Carpinchos.Conexion.Resultados
import Carpinchos.Memoria.Convivencia

/-!
# The way of a request

A call of the library goes to the kernel as an instance in bytes, from there to the memory
module in the bytes of another encoder, and its reply comes back over the same two connections.
One request is on its way at a time. Then each carpincho gets from the three programs, whatever
the others ask for in between, what its library would get from a flat memory of its own.
-/

namespace Carpinchos.Sistema.Recorrido

open Outcome Wire Runs Parties

section Partes

inductive Alto
  | formato (f : Formato.Falla)
  | memoria (f : Memoria.Falla)
  | respuesta (f : Conexion.Falla)

/-- The values of `operacion` that have a name. -/
def operacionDe (tipoOp : Int32) : Option Conexion.Operacion :=
  if tipoOp = 0 then some .memalloc
  else if tipoOp = 1 then some .memfree
  else if tipoOp = 2 then some .memread
  else if tipoOp = 3 then some .memwrite
  else none

/-- The call that `server_procesar_mensaje` makes of an instance. For a read it asks for a block,
which holds `basura`. -/
def llamadaDe (op : Conexion.Operacion) (basura : ℕ → UInt8) (i : Formato.MateInstance) :
    Memoria.Llamada :=
  let pid := i.pid.toInt
  let size := i.memoria.valor.longitud.toInt.toNat
  let addr := Memoria.aUint32 i.memoria.addr.toInt
  match op with
  | .memalloc => .memalloc pid size
  | .memfree => .memfree pid addr
  | .memread => .memread pid addr ((List.range size).map basura)
  | .memwrite => .memwrite pid addr i.memoria.valor.bytes

theorem toNat_lt (n : Int32) : n.toInt.toNat < 2 ^ 31 := by
  have hlt := n.toInt_lt
  omega

def instanciaDe (op : Conexion.Operacion) (i : Formato.MateInstance) : Conexion.Instancia :=
  ⟨op, i.memoria.valor.longitud.toInt.toNat, toNat_lt _⟩

def desenlaceDe (r : Memoria.Respuesta) : Conexion.Desenlace where
  exito := decide (r.status = .exito)
  direccion := r.direccion.getD 0
  buffer k := (r.buffer.getD [])[k]?.getD 0

variable (E : Memoria.Entorno) (basura : ℕ → UInt8)

/-- `server_procesar_mensaje`, with the bytes that it sends. The code of the end of a process is
that of FINALIZACION. -/
def serverProcesarMensaje (i : Formato.MateInstance) (s : Memoria.Estado) :
    Except Alto (List UInt8 × Memoria.Estado) :=
  if i.tipo = Formato.memoria then
    match operacionDe i.memoria.tipoOp with
    | some op => do
      let (r, s) ← (Memoria.llamar E (llamadaDe op basura i) s).mapError .memoria
      .ok (Conexion.serverProcesarMensaje (.instancia (instanciaDe op i)) (desenlaceDe r), s)
    | none =>
      if i.memoria.tipoOp = Formato.processEnded then do
        let (r, s) ← (Memoria.llamar E (.memfreeAll i.pid.toInt) s).mapError .memoria
        .ok (Conexion.serverProcesarMensaje .processEnded (desenlaceDe r), s)
      else .ok ([], s)
  else .ok (encodeInt32 (-10), s)

/-- `recibirOperaciones`: a message, and its reply. -/
def recibirOperaciones (mensaje : List UInt8) (s : Memoria.Estado) :
    Except Alto (List UInt8 × Memoria.Estado) := do
  let (i, _) ← (Formato.recibir Formato.Memoria.deserializarInstancia mensaje).mapError .formato
  serverProcesarMensaje E basura i s

def faseDe (tipoOp : Int32) : Conexion.Fase := if tipoOp = 2 then .tamanio else .unica

def leerRespuesta (tipoOp : Int32) (flujo : List UInt8) :
    Except Conexion.Falla (List UInt8 × List UInt8) := do
  let (leido, flujo) ← Conexion.recv 4 flujo
  match ← Conexion.siguiente (faseDe tipoOp) leido with
  | none => .ok (leido, flujo)
  | some n =>
    let (valor, flujo) ← Conexion.recv n flujo
    .ok (leido ++ valor, flujo)

end Partes

section Uso

/-- The libraries of the carpinchos, by PID, and the memory module. -/
structure Programas where
  instancias : ℤ → Option Cliente.Carpincho
  /-- what the memory module has sent and the kernel has not read -/
  respuestas : List UInt8
  memoria : Memoria.Estado

/-- A carpincho calls its library, or the kernel sees to its end. -/
inductive Uso
  | llamada (pid : Int32) (x : Cliente.Llamada) (basura : ℕ → UInt8)
  | fin (pid : Int32) (u : Formato.SinIniciar)

def Uso.pid : Uso → ℤ
  | .llamada pid _ _ => pid.toInt
  | .fin pid _ => pid.toInt

def conPid (pid : Int32) : Cliente.Llamada → Cliente.Llamada
  | .mateInit _ u => .mateInit pid u
  | x => x

variable (E : Memoria.Entorno)

def Programas.inicial (basura : ℕ → Memoria.Pagina) : Programas where
  instancias _ := none
  respuestas := []
  memoria := Memoria.inicializarMemoria E.config basura

/-- `serializar_instancia` of the kernel, with the bytes that it forwards. -/
def reenviar (basura : ℕ → UInt8) (i : Formato.MateInstance) (σ : Programas) :
    Except Alto (List UInt8 × Programas) := do
  let mensaje ← (Formato.Kernel.serializarInstancia i).mapError .formato
  let (enviados, memoria) ← recibirOperaciones E basura mensaje σ.memoria
  let (leidos, respuestas) ←
    (leerRespuesta i.memoria.tipoOp (σ.respuestas ++ enviados)).mapError .respuesta
  .ok (leidos, { σ with respuestas := respuestas, memoria := memoria })

/-- A call, to the end of its `serializar_instancia`, with the bytes that this one returns. The
kernel answers by itself the calls that do not concern the memory. -/
def usar : Uso → Programas → Except Alto (List UInt8 × Programas)
  | .llamada pid x basura, σ => do
    let c ← (Cliente.llamar (conPid pid x) (σ.instancias pid.toInt)).mapError .formato
    let σ := { σ with instancias := Function.update σ.instancias pid.toInt (some c) }
    let mensaje ← (Cliente.serializarInstancia c).mapError .formato
    let ((i, _), _) ←
      (Formato.recibir Formato.Kernel.deserializarInstancia mensaje).mapError .formato
    if i.tipo = Formato.memoria then do
      let (leidos, σ) ← reenviar E basura i σ
      let (result, _) ← (leerRespuesta c.memoria.tipoOp leidos).mapError .respuesta
      .ok (result, σ)
    else .ok ([], σ)
  | .fin pid u, σ => do
    let mensaje ← (Formato.Kernel.finalizacionCarpincho pid u).mapError .formato
    let (enviados, memoria) ← recibirOperaciones E (fun _ => 0) mensaje σ.memoria
    .ok ([], { σ with respuestas := σ.respuestas ++ enviados, memoria := memoria })

end Uso

section Propio

/-- A library over a flat memory of its own. -/
structure Propio where
  instancia : Option Cliente.Carpincho
  heap : Memoria.Solitario

namespace Propio

def inicial : Propio := ⟨none, Memoria.Solitario.inicial⟩

def pedidoDe (pid : ℤ) (basura : ℕ → UInt8) : Cliente.Llamada → Option Memoria.Llamada
  | .mateMemalloc size => some (.memalloc pid size.toInt.toNat)
  | .mateMemfree addr => some (.memfree pid (Memoria.aUint32 addr.toInt))
  | .mateMemread origin size =>
    some (.memread pid (Memoria.aUint32 origin.toInt) ((List.range size.toInt.toNat).map basura))
  | .mateMemwrite origin dest size =>
    some (.memwrite pid (Memoria.aUint32 dest.toInt) ((List.range size.toInt.toNat).map origin))
  | _ => none

/-- What the library gets for it. A read that is refused, or of no byte, is not promised
anything. -/
def resultadoDe (r : Memoria.Respuesta) : Memoria.Llamada → Option (List UInt8)
  | .memalloc _ _ =>
    some (if r.status = .exito then encode 4 (r.direccion.getD 0) else encodeInt32 (-4))
  | .memfree _ _ => some (encodeInt32 (if r.status = .exito then 5 else -5))
  | .memread _ _ buffer =>
    if r.status = .exito ∧ buffer ≠ [] then some (encodeInt32 buffer.length ++ r.buffer.getD [])
    else none
  | .memwrite _ _ _ => some (encodeInt32 (if r.status = .exito then 7 else -7))
  | .memfreeAll _ => none

/-- A call when the carpincho is alone. The library sends its instance, but nobody reads it. One
that ends in an empty name is waited for. -/
def usar (cfg : Memoria.Config) (concede : ℤ → List ℤ → ℤ → Bool) :
    Uso → Propio → Except Alto (List UInt8 × Propio)
  | .llamada pid x basura, t => do
    let c ← (Cliente.llamar (conPid pid x) t.instancia).mapError .formato
    let _ ← (Cliente.serializarInstancia c).mapError .formato
    if c.nombreIo.longitud = 0 then .error (.formato .esperando)
    else
      match pedidoDe pid.toInt basura x with
      | none => .ok ([], { t with instancia := some c })
      | some op => do
        let (r, heap) ← (Memoria.Solitario.llamar cfg concede op t.heap).mapError .memoria
        match resultadoDe r op with
        | none => .error (.respuesta .punteroNulo)
        | some bytes => .ok (bytes, ⟨some c, heap⟩)
  | .fin _ _, _ => .error (.memoria .operandoInexistente)

end Propio

end Propio

section Mensaje

variable {E : Memoria.Entorno} {c : Cliente.Carpincho} {i : Formato.MateInstance}
  {op : Conexion.Operacion} {d : Conexion.Desenlace} {basura : ℕ → UInt8} {pid : Int32}
  {x : Cliente.Llamada}

structure Enviada (c : Cliente.Carpincho) (i : Formato.MateInstance) : Prop where
  tipo : i.tipo = c.tipo
  pid : i.pid = c.pid
  addr : i.memoria.addr = c.memoria.addr
  tipoOp : i.memoria.tipoOp = c.memoria.tipoOp
  size : i.memoria.valor.longitud = c.memoria.valor.longitud
  valor : i.memoria.valor.bytes =
    c.memoria.valor.bytes.take c.memoria.valor.longitud.toInt.toNat
  longitudIo : i.nombreIo.longitud = c.nombreIo.longitud

theorem copiar_eq_ok {b : Cliente.Bloque} {cadena : Formato.Cadena}
    (h : b.copiar = .ok cadena) : cadena.longitud = b.longitud ∧
      cadena.bytes = b.bytes.take b.longitud.toInt.toNat := by
  unfold Cliente.Bloque.copiar at h
  split at h
  · cases h
    exact ⟨rfl, rfl⟩
  · cases h

theorem exists_enviada {mensaje : List UInt8} (h : Cliente.serializarInstancia c = .ok mensaje) :
    ∃ i : Formato.MateInstance, mensaje = i.campos.flatten ∧ i.Cabe ∧ Enviada c i := by
  obtain ⟨nombreSem, -, h⟩ := bind_eq_ok.1 h
  obtain ⟨valor, hvalor, h⟩ := bind_eq_ok.1 h
  obtain ⟨nombreIo, hnombreIo, h⟩ := bind_eq_ok.1 h
  obtain ⟨hsize, hbytes⟩ := copiar_eq_ok hvalor
  obtain ⟨hlongitudIo, -⟩ := copiar_eq_ok hnombreIo
  rw [Formato.Matelib.serializarInstancia_eq] at h
  have hcabe := Formato.cabe_of_empaquetar h
  rw [Formato.empaquetar_of_eq (Formato.toInt_pedidos hcabe)] at h
  exact ⟨_, (Except.ok.inj h).symm, hcabe, rfl, rfl, rfl, rfl, hsize, hbytes, hlongitudIo⟩

theorem llamar_pid {o : Option Cliente.Carpincho} (ho : ∀ c', o = some c' → c'.pid = pid)
    (h : Cliente.llamar (conPid pid x) o = .ok c) : c.pid = pid := by
  cases x with
  | mateInit pid' u =>
    cases h
    rfl
  | mateCallIo io =>
    cases o with
    | none => cases h
    | some c' =>
      obtain ⟨bloque, -, h⟩ := bind_eq_ok.1 h
      cases h
      exact ho c' rfl
  | mateMemwrite origin dest size =>
    cases o with
    | none => cases h
    | some c' =>
      obtain ⟨valor, -, h⟩ := bind_eq_ok.1 h
      cases h
      exact ho c' rfl
  | _ =>
    cases o with
    | none => cases h
    | some c' =>
      cases h
      exact ho c' rfl

theorem llamadaDe_eq {o : Option Cliente.Carpincho} {pedido : Memoria.Llamada}
    (h : Cliente.llamar (conPid pid x) o = .ok c) (hpid : c.pid = pid) (hi : Enviada c i)
    (hpedido : Propio.pedidoDe pid.toInt basura x = some pedido) :
    i.tipo = Formato.memoria ∧
      ∃ op, operacionDe i.memoria.tipoOp = some op ∧ llamadaDe op basura i = pedido := by
  cases o with
  | none => cases x <;> first | (cases hpedido; done) | cases h
  | some c' =>
    cases x with
    | mateMemalloc size =>
      cases h
      cases hpedido
      refine ⟨hi.tipo, .memalloc, ?_, ?_⟩
      · rw [hi.tipoOp]
        rfl
      · rw [llamadaDe, hi.pid, hpid, hi.size]
        rfl
    | mateMemfree addr =>
      cases h
      cases hpedido
      refine ⟨hi.tipo, .memfree, ?_, ?_⟩
      · rw [hi.tipoOp]
        rfl
      · rw [llamadaDe, hi.pid, hpid, hi.addr]
        rfl
    | mateMemread origin size =>
      cases h
      cases hpedido
      refine ⟨hi.tipo, .memread, ?_, ?_⟩
      · rw [hi.tipoOp]
        rfl
      · rw [llamadaDe, hi.pid, hpid, hi.addr, hi.size]
        rfl
    | mateMemwrite origin dest size =>
      obtain ⟨valor, hvalor, h⟩ := bind_eq_ok.1 h
      cases h
      cases hpedido
      have htamanio : valor = size.toInt.toNat := by
        unfold Formato.malloc at hvalor
        split at hvalor
        · cases hvalor
        · exact (Except.ok.inj hvalor).symm
      refine ⟨hi.tipo, .memwrite, ?_, ?_⟩
      · rw [hi.tipoOp]
        rfl
      · rw [llamadaDe, hi.pid, hpid, hi.addr, hi.valor, htamanio]
        dsimp only
        rw [List.take_of_length_le (by simp)]
    | _ => cases hpedido

/-- A call that does not concern the memory stays in the kernel. -/
theorem tipo_ne {o : Option Cliente.Carpincho} (h : Cliente.llamar (conPid pid x) o = .ok c)
    (hpedido : Propio.pedidoDe pid.toInt basura x = none) : c.tipo ≠ Formato.memoria := by
  have huno : (1 : Int32) ≠ 0 := by decide
  have hdos : (2 : Int32) ≠ 0 := by decide
  have htres : (3 : Int32) ≠ 0 := by decide
  cases x with
  | mateInit pid' u =>
    cases h
    exact htres
  | mateCallIo io =>
    cases o with
    | none => cases h
    | some c' =>
      obtain ⟨bloque, -, h⟩ := bind_eq_ok.1 h
      cases h
      exact huno
  | mateMemalloc size => cases hpedido
  | mateMemfree addr => cases hpedido
  | mateMemread origin size => cases hpedido
  | mateMemwrite origin dest size => cases hpedido
  | _ =>
    cases o with
    | none => cases h
    | some c' =>
      cases h
      exact hdos

end Mensaje

section Respuesta

variable {E : Memoria.Entorno} {i : Formato.MateInstance} {op : Conexion.Operacion}
  {d : Conexion.Desenlace} {r : Memoria.Respuesta} {basura : ℕ → UInt8} {tipoOp : Int32}
  {bytes flujo : List UInt8}

theorem leerRespuesta_eq (h : operacionDe tipoOp = some op) (i : Formato.MateInstance)
    (flujo : List UInt8) : leerRespuesta tipoOp flujo =
      Conexion.leerRespuesta (.instancia (instanciaDe op i)) flujo := by
  have hfase : faseDe tipoOp = op.fase := by
    unfold operacionDe at h
    unfold faseDe
    split_ifs at h with h0 h1 h2 h3 <;> cases h
    · rw [if_neg (by rw [h0]; decide)]
      rfl
    · rw [if_neg (by rw [h1]; decide)]
      rfl
    · rw [if_pos h2]
      rfl
    · rw [if_neg (by rw [h3]; decide)]
      rfl
  rw [leerRespuesta, hfase]
  rfl

theorem leerRespuesta_completa (h : operacionDe tipoOp = some op)
    (hd : (Conexion.Pedido.instancia (instanciaDe op i)).Completa d) :
    leerRespuesta tipoOp (Conexion.serverProcesarMensaje (.instancia (instanciaDe op i)) d) =
      .ok (Conexion.serverProcesarMensaje (.instancia (instanciaDe op i)) d, []) := by
  rw [leerRespuesta_eq h i]
  exact Conexion.leerRespuesta_completa hd

theorem length_memread {cfg : Memoria.Config} {concede : ℤ → List ℤ → ℤ → Bool} {pid : ℤ}
    {pos : ℕ} {buffer : List UInt8} {t t' : Memoria.Solitario}
    (h : Memoria.Solitario.llamar cfg concede (.memread pid pos buffer) t = .ok (r, t')) :
    (r.buffer.getD []).length = buffer.length := by
  obtain ⟨⟨⟨status, leido⟩, t₁⟩, hleer, h⟩ := bind_eq_ok.1 h
  cases h
  unfold Memoria.Solitario.memread at hleer
  cases ht : t.heap with
  | none =>
    rw [ht] at hleer
    cases hleer
    rfl
  | some heap =>
    rw [ht] at hleer
    dsimp only at hleer
    split at hleer
    · obtain ⟨u, -, hleer⟩ := bind_eq_ok.1 hleer
      split at hleer
      · cases hleer
        exact Bytes.length_slice _ _ _
      · cases hleer
    · cases hleer
      rfl

theorem map_buffer (r : Memoria.Respuesta) :
    (List.range (r.buffer.getD []).length).map (desenlaceDe r).buffer = r.buffer.getD [] := by
  refine List.ext_getElem (by simp) fun k hk hk' => ?_
  simp [desenlaceDe, hk']

/-- The memory module sends what the carpincho is to get, in a reply that is complete. -/
theorem resultadoDe_eq (h : Propio.resultadoDe r (llamadaDe op basura i) = some bytes)
    (hlargo : op = .memread → (r.buffer.getD []).length = i.memoria.valor.longitud.toInt.toNat) :
    bytes = Conexion.serverProcesarMensaje (.instancia (instanciaDe op i)) (desenlaceDe r) ∧
      (Conexion.Pedido.instancia (instanciaDe op i)).Completa (desenlaceDe r) := by
  cases op with
  | memalloc =>
    cases h
    refine ⟨?_, fun hno => by cases hno⟩
    rw [Conexion.serverProcesarMensaje]
    by_cases hr : r.status = .exito
    · simp [instanciaDe, desenlaceDe, hr]
    · simp [instanciaDe, desenlaceDe, hr]
      rfl
  | memfree =>
    cases h
    refine ⟨?_, fun hno => by cases hno⟩
    rw [Conexion.serverProcesarMensaje]
    by_cases hr : r.status = .exito <;> simp [instanciaDe, desenlaceDe, hr] <;> rfl
  | memwrite =>
    cases h
    refine ⟨?_, fun hno => by cases hno⟩
    rw [Conexion.serverProcesarMensaje]
    by_cases hr : r.status = .exito <;> simp [instanciaDe, desenlaceDe, hr] <;> rfl
  | memread =>
    unfold Propio.resultadoDe llamadaDe at h
    dsimp only at h
    split at h
    · next hr =>
      have hexito : (desenlaceDe r).exito = true := decide_eq_true hr.1
      have hpositivo : 0 < (instanciaDe .memread i).size := by
        simpa [instanciaDe, Nat.pos_iff_ne_zero] using hr.2
      cases h
      refine ⟨?_, fun _ => ⟨hexito, hpositivo⟩⟩
      rw [Conexion.serverProcesarMensaje_memread rfl hexito]
      have hsize : (instanciaDe .memread i).size = (r.buffer.getD []).length := (hlargo rfl).symm
      rw [hsize, map_buffer, List.length_map, List.length_range, hlargo rfl]
    · cases h

end Respuesta

section Servicio

variable {E : Memoria.Entorno} {concede : ℤ → List ℤ → ℤ → Bool} {i : Formato.MateInstance}
  {op : Conexion.Operacion} {r : Memoria.Respuesta} {basura : ℕ → UInt8} {σ : Programas}
  {f : ℤ → Propio}

/-- What stops the programs: in the memory module a counter that overflows, or no page to
evict. -/
def Detenido (e : Alto) : Prop :=
  e = .memoria .candidatosVacios ∨ e = .memoria .desbordamiento

/-- Each library has the instance, and the module the memory, that its carpincho would have
alone, and no byte of a reply is on its way. -/
structure Corresponde (E : Memoria.Entorno) (σ : Programas) (f : ℤ → Propio) : Prop where
  instancias : ∀ pid, σ.instancias pid = (f pid).instancia
  pids : ∀ pid c, (f pid).instancia = some c → c.pid.toInt = pid
  respuestas : σ.respuestas = []
  memoria : Memoria.Refleja E σ.memoria fun pid => (f pid).heap

theorem reenviar_spec (post : Memoria.Estado → Prop) (hcabe : i.Cabe)
    (hllena : i.nombreIo.bytes ++ [] ≠ []) (htipo : i.tipo = Formato.memoria)
    (hop : operacionDe i.memoria.tipoOp = some op) (hrespuestas : σ.respuestas = [])
    (hcompleta : (Conexion.Pedido.instancia (instanciaDe op i)).Completa (desenlaceDe r))
    (h : Spec (Memoria.llamar E (llamadaDe op basura i) σ.memoria)
      (fun r' => r'.1 = r ∧ post r'.2) Memoria.Detenida) :
    Spec (reenviar E basura i σ) (fun o =>
      o.1 = Conexion.serverProcesarMensaje (.instancia (instanciaDe op i)) (desenlaceDe r) ∧
      o.2.instancias = σ.instancias ∧ o.2.respuestas = [] ∧ post o.2.memoria) Detenido := by
  have hrecibir : Formato.recibir Formato.Memoria.deserializarInstancia i.campos.flatten =
      .ok (i, []) := by
    have := Formato.Memoria.recibir_campos i hllena
    rwa [List.append_nil] at this
  have hatender : Spec (recibirOperaciones E basura i.campos.flatten σ.memoria) (fun o =>
      o.1 = Conexion.serverProcesarMensaje (.instancia (instanciaDe op i)) (desenlaceDe r) ∧
      post o.2) Detenido := by
    rw [recibirOperaciones, hrecibir]
    change Spec (serverProcesarMensaje E basura i σ.memoria) _ _
    rw [serverProcesarMensaje, if_pos htipo, hop]
    refine Spec.bind (h.mapError (f := Alto.memoria) fun e he => ?_) fun r' hr' => ?_
    · rcases he with rfl | rfl
      · exact Or.inl rfl
      · exact Or.inr rfl
    · exact ⟨by rw [hr'.1], hr'.2⟩
  rw [reenviar, Formato.Kernel.serializarInstancia_of_cabe hcabe]
  refine hatender.bind fun o ho => ?_
  have hleer : leerRespuesta i.memoria.tipoOp (σ.respuestas ++ o.1) = .ok (o.1, []) := by
    rw [hrespuestas, List.nil_append, ho.1]
    exact leerRespuesta_completa hop hcompleta
  dsimp only
  rw [hleer]
  exact ⟨ho.1, rfl, rfl, ho.2⟩

theorem Corresponde.actualizar {pid : ℤ} {c : Cliente.Carpincho} {heap : Memoria.Solitario}
    {σ' : Programas} (h : Corresponde E σ f) (hpid : c.pid.toInt = pid)
    (hinstancias : σ'.instancias = Function.update σ.instancias pid (some c))
    (hrespuestas : σ'.respuestas = [])
    (hmemoria : Memoria.Refleja E σ'.memoria
      (Function.update (fun pid => (f pid).heap) pid heap)) :
    Corresponde E σ' (Function.update f pid ⟨some c, heap⟩) where
  instancias := by
    intro q
    rw [hinstancias]
    rcases eq_or_ne q pid with rfl | hq
    · rw [Function.update_self, Function.update_self]
    · rw [Function.update_of_ne hq, Function.update_of_ne hq]
      exact h.instancias q
  pids := by
    intro q c' hc'
    rcases eq_or_ne q pid with rfl | hq
    · rw [Function.update_self] at hc'
      cases hc'
      exact hpid
    · rw [Function.update_of_ne hq] at hc'
      exact h.pids q c' hc'
  respuestas := hrespuestas
  memoria := by
    have hheaps : (fun q => (Function.update f pid ⟨some c, heap⟩ q).heap) =
        Function.update (fun q => (f q).heap) pid heap := by
      funext q
      rcases eq_or_ne q pid with rfl | hq
      · rw [Function.update_self, Function.update_self]
      · rw [Function.update_of_ne hq, Function.update_of_ne hq]
    rw [hheaps]
    exact hmemoria

/-- The three programs serve each carpincho as its library over a flat memory does. -/
theorem usar_sirve (hleal : Memoria.Leal E concede) :
    Serves Uso.pid (usar E) (Propio.usar E.config concede) (Corresponde E) Detenido := by
  intro uso σ f o t hσ halone
  cases uso with
  | fin pid u => cases halone
  | llamada pid x basura =>
    obtain ⟨c, hc, halone⟩ := bind_eq_ok.1 halone
    obtain ⟨mensaje, hmensaje, halone⟩ := bind_eq_ok.1 halone
    rw [mapError_eq_ok] at hc hmensaje
    obtain ⟨i, rfl, hcabe, hi⟩ := exists_enviada hmensaje
    have hpid : c.pid = pid := llamar_pid (fun c' hc' => Int32.toInt_inj.1 (hσ.pids _ c' hc')) hc
    have hlongitud : ¬ c.nombreIo.longitud = 0 := by
      intro hcero
      rw [if_pos hcero] at halone
      cases halone
    rw [if_neg hlongitud] at halone
    have hllena : i.nombreIo.bytes ++ [] ≠ [] := by
      rw [List.append_nil, Ne, Formato.Cadena.bytes_eq_nil_iff, hi.longitudIo]
      exact hlongitud
    have hrecibir : Formato.recibir Formato.Kernel.deserializarInstancia i.campos.flatten =
        .ok (Formato.acuse i, []) := by
      have := Formato.Kernel.recibir_campos i hllena
      rwa [List.append_nil] at this
    have hpidInt : c.pid.toInt = Uso.pid (.llamada pid x basura) := by rw [hpid]; rfl
    have hinstancia : σ.instancias pid.toInt = (f (Uso.pid (.llamada pid x basura))).instancia :=
      hσ.instancias _
    rw [usar, hinstancia, hc]
    dsimp only [Except.mapError, ok_bind]
    rw [hmensaje]
    dsimp only [Except.mapError, ok_bind]
    rw [hrecibir]
    dsimp only [Except.mapError, ok_bind, Formato.acuse]
    cases hpedido : Propio.pedidoDe pid.toInt basura x with
    | none =>
      rw [hpedido] at halone
      cases halone
      have htipo : i.tipo ≠ Formato.memoria := hi.tipo ▸ tipo_ne hc hpedido
      rw [if_neg htipo]
      refine ⟨rfl, hσ.actualizar hpidInt rfl hσ.respuestas ?_⟩
      rw [Function.update_eq_self]
      exact hσ.memoria
    | some pedido =>
      rw [hpedido] at halone
      obtain ⟨⟨r, heap⟩, hr, halone⟩ := bind_eq_ok.1 halone
      rw [mapError_eq_ok] at hr
      obtain ⟨htipo, op, hop, rfl⟩ := llamadaDe_eq hc hpid hi hpedido
      dsimp only at halone
      cases hresultado : Propio.resultadoDe r (llamadaDe op basura i) with
      | none =>
        rw [hresultado] at halone
        cases halone
      | some bytes =>
        rw [hresultado] at halone
        cases halone
        have hpidOp : (llamadaDe op basura i).pid = pid.toInt := by
          rw [← hpid, ← hi.pid]
          cases op <;> rfl
        have hserves := hleal.sirve (llamadaDe op basura i) σ.memoria (fun q => (f q).heap) r heap
          hσ.memoria (by rw [hpidOp]; exact hr)
        rw [hpidOp] at hserves
        obtain ⟨hbytes, hcompleta⟩ := resultadoDe_eq hresultado fun hread => by
          subst hread
          rw [length_memread hr, List.length_map, List.length_range]
        rw [if_pos htipo]
        refine Spec.bind (reenviar_spec (fun s => Memoria.Refleja E s
          (Function.update (fun q => (f q).heap) pid.toInt heap)) hcabe hllena htipo hop
        hσ.respuestas
            hcompleta hserves) fun o ho => ?_
        obtain ⟨ho, hinstancias, hrespuestas, hmemoria⟩ := ho
        have hleer : leerRespuesta c.memoria.tipoOp o.1 = .ok (o.1, []) := by
          rw [← hi.tipoOp, ho]
          exact leerRespuesta_completa hop hcompleta
        rw [hleer]
        exact ⟨ho.trans hbytes.symm, hσ.actualizar hpidInt hinstancias hrespuestas hmemoria⟩

end Servicio

section Corridas

variable {E : Memoria.Entorno} {concede : ℤ → List ℤ → ℤ → Bool}

theorem inicial_corresponde (hleal : Memoria.Leal E concede) (basura : ℕ → Memoria.Pagina) :
    Corresponde E (Programas.inicial E basura) fun _ => Propio.inicial where
  instancias := fun _ => rfl
  pids := fun _ _ hno => nomatch hno
  respuestas := rfl
  memoria := Memoria.inicializarMemoria_refleja hleal.entradas basura

/-- However the calls of the carpinchos to their libraries come one after the other, each of them
gets back, through the kernel and the memory module, the bytes that its library would get from a
flat memory of its own. -/
theorem usos_como_a_solas (hleal : Memoria.Leal E concede) (basura : ℕ → Memoria.Pagina)
    (usos : List Uso) (resultados : ℤ → List (List UInt8)) (fin : ℤ → Propio)
    (hsolos : ∀ pid, run (Propio.usar E.config concede) (inputsOf Uso.pid pid usos)
      Propio.inicial = .ok (resultados pid, fin pid)) :
    Spec (run (usar E) usos (Programas.inicial E basura))
      (fun r => ∀ pid, outputsTo Uso.pid pid usos r.1 = resultados pid) Detenido :=
  ((usar_sirve hleal).spec_run usos (inicial_corresponde hleal basura) hsolos).mono
    (fun _ hr => hr.1) fun _ he => he

/-- Two carpinchos whose pages do not fit in eight frames together. Each one writes first, without
a block, so that its instance has room for what it asks for later. -/
def usosAlternados : List Uso :=
  [.llamada 1 (.mateInit 1 ⟨0, 0, 0, 0, 0, 0, 0⟩) fun _ => 0,
   .llamada 2 (.mateInit 2 ⟨0, 0, 0, 0, 0, 0, 0⟩) fun _ => 0,
   .llamada 1 (.mateMemwrite (fun _ => 0) 9 200) fun _ => 0,
   .llamada 2 (.mateMemwrite (fun _ => 0) 9 220) fun _ => 0,
   .llamada 1 (.mateMemalloc 200) fun _ => 0,
   .llamada 1 (.mateMemwrite (fun k => UInt8.ofNat k + 7) 9 2) fun _ => 0,
   .llamada 2 (.mateMemalloc 220) fun _ => 0,
   .llamada 1 (.mateSemPost [65]) fun _ => 0,
   .llamada 2 (.mateMemread 9 2) fun _ => 0,
   .llamada 1 (.mateMemread 9 2) fun _ => 0]

theorem usosAlternados_solos (pid : ℤ) :
    (run (Propio.usar Memoria.configHeap fun _ _ _ => true)
      (inputsOf Uso.pid pid usosAlternados) Propio.inicial).isOk = true := by
  by_cases h₁ : pid = 1
  · subst h₁
    decide +kernel
  · by_cases h₂ : pid = 2
    · subst h₂
      decide +kernel
    · have hnada : inputsOf Uso.pid pid usosAlternados = [] := by
        simp [inputsOf, usosAlternados, Uso.pid, Ne.symm h₁, Ne.symm h₂]
      rw [hnada]
      rfl

theorem exists_usos_solos :
    ∃ (resultados : ℤ → List (List UInt8)) (fin : ℤ → Propio), ∀ pid,
      run (Propio.usar Memoria.configHeap fun _ _ _ => true) (inputsOf Uso.pid pid usosAlternados)
        Propio.inicial = .ok (resultados pid, fin pid) := by
  choose r hr using fun pid => exists_of_isOk (usosAlternados_solos pid)
  exact ⟨fun pid => (r pid).1, fun pid => (r pid).2, hr⟩

theorem usosAlternados_primero :
    returns (run (Propio.usar Memoria.configHeap fun _ _ _ => true)
      (inputsOf Uso.pid 1 usosAlternados) Propio.inicial)
      (fun r => decide (r.1 =
        [[], encodeInt32 (-7), encode 4 9, encodeInt32 7, [], encodeInt32 2 ++ [7, 8]])) =
        true := by
  decide +kernel

/-- The first carpincho reads what it wrote, after its page has made room for the second one. -/
theorem usos_como_a_solas_dos :
    Spec (run (usar (Memoria.entornoFiel Memoria.configHeap)) usosAlternados
        (Programas.inicial (Memoria.entornoFiel Memoria.configHeap) fun _ =>
          ⟨0, 0, 0, false, false, false, 0, false⟩))
      (fun r => outputsTo Uso.pid 1 usosAlternados r.1 =
        [[], encodeInt32 (-7), encode 4 9, encodeInt32 7, [], encodeInt32 2 ++ [7, 8]])
      Detenido := by
  have hsolos := exists_usos_solos
  have hprimero := usosAlternados_primero
  -- Left as a constant, the list would let the unifier run the machine.
  generalize usosAlternados = usos at hsolos hprimero ⊢
  obtain ⟨resultados, fin, hsolos⟩ := hsolos
  obtain ⟨r, hr, hrespuestas⟩ := exists_of_returns hprimero
  rw [hsolos 1] at hr
  cases hr
  exact (usos_como_a_solas (Memoria.entornoFiel_leal Memoria.configHeap rfl (by decide)) _ usos
    resultados fin hsolos).mono (fun _ hr => (hr 1).trans (of_decide_eq_true hrespuestas))
    fun _ he => he

end Corridas

end Carpinchos.Sistema.Recorrido
