import Carpinchos.Memoria.SwampFiel
import Carpinchos.Swamp.Concesiones
import Carpinchos.Swamp.Contenido

/-!
# SWAmP behind the memory module

The memory module and SWAmP share a connection. SWAmP takes operations off it as long as bytes
come, and the memory module reads after each request as many bytes of the replies as that
request calls for. What one of them leaves unread is the first that it finds later. In GLOBAL
assignment with a single file, a write puts its page in a free slot and a read empties the slot
of its page, so that while nothing is left unread the slots hold the pages that were written
and not read since.
-/

namespace Carpinchos.Sistema

open Outcome Runs Wire Slots Swamp

section Definiciones

/-- The two ends of the connection. What uninitialised memory holds, what lies in memory behind a
frame, up to a zero, and the four bytes that `lectura_swamp` sends without having filled them
may be different in every request. -/
structure Enlace where
  swamp : Config
  pidInicial : ℕ → ℤ
  basura : ℕ → Basura
  ajena : ℕ → List UInt8
  sobra : ℕ → ℕ → UInt8
  ajena_lt : ∀ i, swamp.tamanioPagina + (ajena i).length + 1 < 2 ^ 31

structure Linea where
  servidor : Estado
  subida : List UInt8
  bajada : List UInt8

inductive Corte
  | servidor (f : Falla)
  | sinRespuesta
  deriving DecidableEq

variable (C : Enlace)

def Enlace.cadena (i : ℕ) (contenido : List UInt8) : List UInt8 :=
  (contenido ++ C.ajena i).takeWhile fun c => c ≠ 0

def Enlace.bytes (i : ℕ) (m : Memoria.Mensaje) : List UInt8 :=
  match m with
  | .escritura pid pagina contenido =>
    let msg := C.cadena i contenido
    enviarPaqueteSwamp (encodeInt32 pid ++ (encodeInt32 pagina ++
      (encodeInt32 (msg.length + 1 : ℕ) ++ (msg ++ [0])))) .escribir
  | .lectura pid pagina =>
    enviarPaqueteSwamp
      (encodeInt32 pid ++ (encodeInt32 pagina ++ (List.range 4).map (C.sobra i))) .leer
  | .consulta pid cantPag =>
    enviarPaqueteSwamp (encodeInt32 pid ++ encodeInt32 cantPag) .puedeEscribir

/-- `server_atender_cliente` until it waits for bytes that do not come: what it has sent, what it
has not read and its state. The bytes of an operation that are there are kept until the rest of
it comes. -/
def Enlace.atender (basura : Basura) :
    ℕ → List UInt8 → Estado → Except Falla (List UInt8 × List UInt8 × Estado)
  | 0, flujo, s => .ok ([], flujo, s)
  | turnos + 1, flujo, s =>
    match recibirInt flujo with
    | none => .ok ([], flujo, s)
    | some (codigoOp, resto) =>
      match CodOp.deValor codigoOp with
      | none => Enlace.atender basura turnos resto s
      | some codOp =>
        match recibirPeticion codOp resto with
        | none => .ok ([], flujo, s)
        | some (peticion, resto) => do
          let (enviados, s) ← serverProcesarMensaje C.swamp (peticion, basura) s
          let (despues, flujo, s) ← Enlace.atender basura turnos resto s
          .ok (enviados ++ despues, flujo, s)

/-- What the memory module reads after a request: a page, `none` being -1, or a code. -/
def leerRespuesta (tamanioPagina : ℕ) (m : Memoria.Mensaje) (flujo : List UInt8) :
    Option (Option (List UInt8) × List UInt8) :=
  match m with
  | .lectura _ _ => lecturaSwamp tamanioPagina flujo
  | _ => (takeExact 4 flujo).map fun r => (some r.1, r.2)

/-- The `i`-th request, what SWAmP makes of it and what the memory module reads. -/
def Enlace.intercambiar (x : ℕ × Memoria.Mensaje) (l : Linea) :
    Except Corte (Option (List UInt8) × Linea) := do
  let flujo := l.subida ++ C.bytes x.1 x.2
  let (enviados, subida, servidor) ←
    (C.atender (C.basura x.1) flujo.length flujo l.servidor).mapError .servidor
  match leerRespuesta C.swamp.tamanioPagina x.2 (l.bajada ++ enviados) with
  | none => .error .sinRespuesta
  | some (contenido, bajada) => .ok (contenido, ⟨servidor, subida, bajada⟩)

def Enlace.lineaInicial : Linea := ⟨inicialGlobal C.swamp C.pidInicial, [], []⟩

def Enlace.linea (historia : List Memoria.Mensaje) : Except Corte Linea := do
  let r ← run C.intercambiar (historia.mapIdx Prod.mk) C.lineaInicial
  .ok r.2

/-- What `lectura_swamp` gets. On a connection that has stopped it waits for ever, and is taken
to get an empty page. -/
def Enlace.leer (historia : List Memoria.Mensaje) (pid pagina : ℤ) : Option (List UInt8) :=
  match C.linea historia with
  | .error _ => some (List.replicate C.swamp.tamanioPagina 0)
  | .ok l =>
    match C.intercambiar (historia.length, .lectura pid pagina) l with
    | .error _ => some (List.replicate C.swamp.tamanioPagina 0)
    | .ok r => r.1

end Definiciones

section Condiciones

variable (C : Enlace)

/-- What a read leaves in the stream is not the code of an operation. -/
def Enlace.inocuo (i : ℕ) (m : Memoria.Mensaje) : Bool :=
  match m with
  | .lectura _ _ => (CodOp.deValor (decodeInt32 ((List.range 4).map (C.sobra i)))).isNone
  | _ => true

def Enlace.Inocua (historia : List Memoria.Mensaje) : Prop :=
  ∀ i < historia.length, ∀ m ∈ historia[i]?, C.inocuo i m = true

instance (historia : List Memoria.Mensaje) : Decidable (C.Inocua historia) :=
  inferInstanceAs (Decidable (∀ i < historia.length, ∀ m ∈ historia[i]?, C.inocuo i m = true))

/-- There is a free slot in the file of the carpincho for a page that is sent. -/
def Enlace.conEspacio (l : Linea) (m : Memoria.Mensaje) : Bool :=
  match m with
  | .escritura pid _ _ =>
    returns (hayEspacioArchivo C.swamp (some (archivoPedido C.swamp pid l.servidor)) l.servidor)
      Option.isSome
  | _ => true

/-- Whenever a page is sent there is a free slot for it. -/
def Enlace.HayEspacio (historia : List Memoria.Mensaje) : Prop :=
  ∀ i < historia.length, ∀ m ∈ historia[i]?, ∀ l ∈ (C.linea (historia.take i)).toOption,
    C.conEspacio l m = true

instance (historia : List Memoria.Mensaje) : Decidable (C.HayEspacio historia) :=
  inferInstanceAs (Decidable (∀ i < historia.length, ∀ m ∈ historia[i]?,
    ∀ l ∈ (C.linea (historia.take i)).toOption, C.conEspacio l m = true))

variable {C} {historia : List Memoria.Mensaje} {m : Memoria.Mensaje}

theorem Enlace.Inocua.of_prefix {previos : List Memoria.Mensaje} (h : C.Inocua historia)
    (hp : previos <+: historia) : C.Inocua previos := by
  obtain ⟨resto, rfl⟩ := hp
  intro i hi m hm
  refine h i (by rw [List.length_append]; omega) m ?_
  rwa [List.getElem?_append_left hi]

theorem Enlace.Inocua.ultimo (h : C.Inocua (historia ++ [m])) :
    C.inocuo historia.length m = true :=
  h historia.length (by simp) m (by simp)

theorem Enlace.Inocua.concat (h : C.Inocua historia) (hm : C.inocuo historia.length m = true) :
    C.Inocua (historia ++ [m]) := by
  intro i hi m' hm'
  rw [List.length_append, List.length_singleton, Nat.lt_succ_iff] at hi
  rcases hi.lt_or_eq with hi | rfl
  · rw [List.getElem?_append_left hi] at hm'
    exact h i hi m' hm'
  · rw [List.getElem?_concat_length] at hm'
    cases hm'
    exact hm

theorem Enlace.HayEspacio.of_append (h : C.HayEspacio (historia ++ [m])) :
    C.HayEspacio historia := by
  intro i hi m' hm' l hl
  refine h i (by rw [List.length_append]; omega) m' ?_ l ?_
  · rwa [List.getElem?_append_left hi]
  · rwa [List.take_append_of_le_length hi.le]

theorem Enlace.HayEspacio.ultimo (h : C.HayEspacio (historia ++ [m])) {l : Linea}
    (hl : C.linea historia = .ok l) : C.conEspacio l m = true := by
  refine h historia.length (by simp) m (by simp) l ?_
  rw [List.take_left]
  exact toOption_eq_some.2 hl

end Condiciones

section Respuestas

variable {C : Enlace} {historia : List Memoria.Mensaje} {m : Memoria.Mensaje} {l l' : Linea}

theorem linea_append (C : Enlace) (historia : List Memoria.Mensaje) (m : Memoria.Mensaje) :
    C.linea (historia ++ [m]) = (do
      let l ← C.linea historia
      let r ← C.intercambiar (historia.length, m) l
      .ok r.2) := by
  unfold Enlace.linea
  rw [List.mapIdx_append, run_append]
  cases run C.intercambiar (historia.mapIdx Prod.mk) C.lineaInicial with
  | error e => rfl
  | ok r =>
    have huno : [m].mapIdx (fun i => Prod.mk (i + historia.length)) = [(historia.length, m)] := by
      simp
    simp only [ok_bind, huno, run]
    cases C.intercambiar (historia.length, m) r.2 <;> rfl

theorem linea_append_eq_ok :
    C.linea (historia ++ [m]) = .ok l' ↔
      ∃ l o, C.linea historia = .ok l ∧ C.intercambiar (historia.length, m) l = .ok (o, l') := by
  rw [linea_append]
  constructor
  · intro h
    obtain ⟨l, hl, h⟩ := bind_eq_ok.1 h
    obtain ⟨⟨o, l''⟩, ho, h⟩ := bind_eq_ok.1 h
    cases h
    exact ⟨l, o, hl, ho⟩
  · rintro ⟨l, o, hl, ho⟩
    rw [hl, ok_bind, ho, ok_bind]

theorem length_of_lecturaSwamp_some {n : ℕ} {flujo contenido resto : List UInt8}
    (h : Swamp.lecturaSwamp n flujo = some (some contenido, resto)) : contenido.length = n := by
  obtain ⟨⟨pid, f₁⟩, -, h⟩ := Option.bind_eq_some_iff.1 h
  dsimp only at h
  split at h
  · cases h
  · obtain ⟨⟨x, f₂⟩, -, h⟩ := Option.bind_eq_some_iff.1 h
    obtain ⟨⟨y, f₃⟩, -, h⟩ := Option.bind_eq_some_iff.1 h
    obtain ⟨⟨c, f₄⟩, h₄, h⟩ := Option.bind_eq_some_iff.1 h
    cases h
    exact (takeExact_eq_some h₄).2

theorem exists_leerRespuesta {i : ℕ} {o : Option (List UInt8)}
    (h : C.intercambiar (i, m) l = .ok (o, l')) :
    ∃ flujo, leerRespuesta C.swamp.tamanioPagina m flujo = some (o, l'.bajada) := by
  obtain ⟨⟨enviados, subida, servidor⟩, -, h⟩ := bind_eq_ok.1 h
  dsimp only at h
  cases hrespuesta : leerRespuesta C.swamp.tamanioPagina m (l.bajada ++ enviados) with
  | none =>
    rw [hrespuesta] at h
    cases h
  | some r =>
    rw [hrespuesta] at h
    cases h
    exact ⟨_, hrespuesta⟩

theorem length_leer {pid pagina : ℤ} {contenido : List UInt8}
    (h : C.leer historia pid pagina = some contenido) :
    contenido.length = C.swamp.tamanioPagina := by
  unfold Enlace.leer at h
  split at h
  · cases h
    exact List.length_replicate
  · split at h
    · cases h
      exact List.length_replicate
    · next r hr =>
      obtain ⟨o, l'⟩ := r
      obtain ⟨flujo, hflujo⟩ := exists_leerRespuesta hr
      dsimp only at h
      subst h
      exact length_of_lecturaSwamp_some hflujo

end Respuestas

/-- The memory module with this SWAmP, the pages of both having the same size. -/
def Enlace.entorno (C : Enlace) (E : Memoria.Entorno)
    (hpagina : C.swamp.tamanioPagina = E.config.tamanioPagina) : Memoria.Entorno :=
  { E with
    leerSwamp := C.leer
    leerSwamp_length := fun _ _ _ _ h => (length_leer h).trans hpagina }

section Turnos

variable (C : Enlace) (basura : Basura) (s : Estado)

theorem atender_nil (turnos : ℕ) : C.atender basura turnos [] s = .ok ([], [], s) := by
  cases turnos <;> rfl

/-- Four bytes are at most a code, and one of no operation is passed over. -/
theorem atender_sobra {sobra : List UInt8} (h : sobra.length = 4) (turnos : ℕ) :
    ∃ subida, C.atender basura (turnos + 1) sobra s = .ok ([], subida, s) ∧
      (CodOp.deValor (decodeInt32 sobra) = none → subida = []) := by
  have hint : recibirInt sobra = some (decodeInt32 sobra, []) := by
    have := recibirInt_append h []
    rwa [List.append_nil] at this
  unfold Enlace.atender
  rw [hint]
  dsimp only
  cases hcodOp : CodOp.deValor (decodeInt32 sobra) with
  | none => exact ⟨[], atender_nil C basura s turnos, fun _ => rfl⟩
  | some codOp =>
    have hespera : recibirPeticion codOp [] = none := rfl
    dsimp only
    rw [hespera]
    exact ⟨sobra, rfl, fun hno => by cases hno⟩

theorem atender_bytes (e : Envio) (resto : List UInt8) (turnos : ℕ) :
    C.atender basura (turnos + 1) (e.bytes ++ resto) s = (do
      let (enviados, s) ← serverProcesarMensaje C.swamp (e.peticion, basura) s
      let (despues, flujo, s) ← C.atender basura turnos (e.sobra ++ resto) s
      .ok (enviados ++ despues, flujo, s)) := by
  obtain ⟨codOp, flujo, hint, hpeticion⟩ := recibirPeticion_bytes e resto
  rw [Enlace.atender, hint]
  simp only [CodOp.deValor_valor, hpeticion]

end Turnos

section Intercambios

/-- Nothing that was sent is unread. -/
structure Linea.AlDia (l : Linea) : Prop where
  subida : l.subida = []
  bajada : l.bajada = []

variable {C : Enlace} {m : Memoria.Mensaje} {l : Linea} {t : Estado} {r contenido : List UInt8}
  {i : ℕ}

theorem exists_cadena (i : ℕ) (pid pagina : Entero)
    (h : contenido.length = C.swamp.tamanioPagina) :
    ∃ msg : Cadena, msg.bytes = C.cadena i contenido ∧
      C.bytes i (.escritura pid.valor pagina.valor contenido) =
        (Envio.escritura pid pagina msg).bytes := by
  refine ⟨⟨C.cadena i contenido, fun b hb => ?_, ?_⟩, rfl, rfl⟩
  · simpa using List.all_eq_true.1 List.all_takeWhile b hb
  · have hlargo := (List.takeWhile_prefix (l := contenido ++ C.ajena i) fun c => c ≠ 0).length_le
    have hajena := C.ajena_lt i
    rw [List.length_append, h] at hlargo
    unfold Enlace.cadena
    omega

/-- With nothing unread, the server gets the page as it is sent and its answer is read. -/
theorem intercambiar_escritura (pid pagina : Entero) (hl : l.AlDia)
    (h : contenido.length = C.swamp.tamanioPagina) :
    C.intercambiar (i, .escritura pid.valor pagina.valor contenido) l = (do
      let (r, t) ← (escribirSwap C.swamp pid.valor pagina.valor (C.cadena i contenido ++ [0])
        (C.basura i) l.servidor).mapError .servidor
      match takeExact 4 r with
      | none => .error .sinRespuesta
      | some (codigo, bajada) => .ok (some codigo, ⟨t, [], bajada⟩)) := by
  obtain ⟨msg, hmsg, hbytes⟩ := exists_cadena i pid pagina h
  obtain ⟨turnos, hturnos⟩ :=
    Nat.exists_eq_add_of_le' (Envio.escritura pid pagina msg).length_bytes_pos
  have hserver : serverProcesarMensaje C.swamp ((Envio.escritura pid pagina msg).peticion,
      C.basura i) l.servidor = escribirSwap C.swamp pid.valor pagina.valor
        (C.cadena i contenido ++ [0]) (C.basura i) l.servidor := by
    rw [← hmsg]
    rfl
  have hatender := atender_bytes C (C.basura i) l.servidor
    (Envio.escritura pid pagina msg) [] turnos
  have hsobra : (Envio.escritura pid pagina msg).sobra = [] := rfl
  rw [List.append_nil, hserver, hsobra, List.append_nil] at hatender
  unfold Enlace.intercambiar
  dsimp only
  rw [hl.subida, hl.bajada, List.nil_append, hbytes, hturnos, hatender]
  cases escribirSwap C.swamp pid.valor pagina.valor (C.cadena i contenido ++ [0]) (C.basura i)
      l.servidor with
  | error e => rfl
  | ok x =>
    simp only [ok_bind, atender_nil, Except.mapError, List.append_nil, List.nil_append,
      leerRespuesta]
    cases takeExact 4 x.1 <;> rfl

/-- With nothing unread, a page that the server sends is read whole, and four bytes of the request
are left over. -/
theorem intercambiar_lectura (pid pagina : Entero) (hl : l.AlDia)
    (hr : leerSwap C.swamp pid.valor pagina.valor (C.basura i) l.servidor = .ok (r, t))
    (hlectura : lecturaSwamp C.swamp.tamanioPagina r = some (some contenido, [])) :
    ∃ subida, C.intercambiar (i, .lectura pid.valor pagina.valor) l =
        .ok (some contenido, ⟨t, subida, []⟩) ∧
      (C.inocuo i (.lectura pid.valor pagina.valor) = true → subida = []) := by
  obtain ⟨turnos, hturnos⟩ :=
    Nat.exists_eq_add_of_le (show 2 ≤ (Envio.lectura pid pagina (C.sobra i)).bytes.length by
      rw [Envio.bytes, length_enviarPaqueteSwamp]
      omega)
  obtain ⟨subida, hsubida, hinocua⟩ := atender_sobra C (C.basura i) t
    (show ((List.range 4).map (C.sobra i)).length = 4 by simp) turnos
  have hbytes : C.bytes i (.lectura pid.valor pagina.valor) =
      (Envio.lectura pid pagina (C.sobra i)).bytes := rfl
  have hserver : serverProcesarMensaje C.swamp
      ((Envio.lectura pid pagina (C.sobra i)).peticion, C.basura i) l.servidor = .ok (r, t) := hr
  have hatender := atender_bytes C (C.basura i) l.servidor
    (Envio.lectura pid pagina (C.sobra i)) [] (turnos + 1)
  rw [List.append_nil, hserver, Envio.sobra, List.append_nil, ok_bind] at hatender
  refine ⟨subida, ?_, fun hno => hinocua (Option.isNone_iff_eq_none.1 hno)⟩
  unfold Enlace.intercambiar
  dsimp only
  rw [hl.subida, hl.bajada, List.nil_append, hbytes, hturnos, Nat.add_comm, hatender]
  simp only [ok_bind, hsubida, Except.mapError, List.append_nil, List.nil_append, leerRespuesta,
    hlectura]

end Intercambios

section Contenido

variable {cfg : Config} {S : Set (ℤ × ℤ)} {t t' : Estado} {pid pagina : ℤ} {basura : Basura}
  {r : List UInt8}

/-- The slots hold the pages of `S`, each in one slot, and nothing else. -/
structure Almacena (cfg : Config) (S : Set (ℤ × ℤ)) (t : Estado) : Prop where
  bien : Bien cfg t
  caso : t.casoAsignacion = global
  unica : Unique (ranura t)
  holds : ∀ k, Holds (ranura t) k ↔ k ∈ S

theorem inicialGlobal_almacena (cfg : Config) (basura : ℕ → ℤ) :
    Almacena cfg ∅ (inicialGlobal cfg basura) := by
  have hlibre : ∀ i, ranura (inicialGlobal cfg basura) i = none := by
    intro i
    cases hi : ranura (inicialGlobal cfg basura) i with
    | none => rfl
    | some k =>
      obtain ⟨m, hm, hindice, -⟩ := exists_of_ranura hi
      obtain ⟨j, hj, rfl⟩ := List.mem_mapIdx.1 (List.mem_of_getElem? hm)
      exact absurd rfl hindice
  refine ⟨(inicialGlobal_cubierta cfg basura).bien, rfl, ?_, ?_⟩
  · intro i j k hi
    rw [hlibre] at hi
    cases hi
  · rintro k
    constructor
    · rintro ⟨i, hi⟩
      rw [hlibre] at hi
      cases hi
    · exact False.elim

/-- In GLOBAL no write is refused: without a free slot the server stops. -/
theorem escribirSwap_global (hb : Bien cfg t) (hcaso : t.casoAsignacion = global)
    {buffer : List UInt8} (h : escribirSwap cfg pid pagina buffer basura t = .ok (r, t')) :
    r = encodeInt32 0 := by
  obtain ⟨⟨archivo, u⟩, hu, h⟩ := bind_eq_ok.1 h
  obtain ⟨rfl, ha, hconserva, hcaso'⟩ := recibirPagina_escribir hb hu
  have hbu := hconserva.bien hb
  obtain ⟨libre, hlibre, h⟩ := bind_eq_ok.1 h
  obtain ⟨i, x, rfl, -⟩ := (hayEspacioArchivo_spec hbu _).post_of_eq hlibre
  obtain ⟨⟨asignacion, v⟩, hv, h⟩ := bind_eq_ok.1 h
  obtain ⟨rfl, -⟩ := archivoDe_archivoPedido hbu (hcaso'.trans hcaso) hv
  cases h
  rfl

theorem Almacena.escribir (h : Almacena cfg S t) (hk : (pid, pagina) ∉ S) (hpagina : pagina ≠ -1)
    {buffer : List UInt8} (hr : escribirSwap cfg pid pagina buffer basura t = .ok (r, t')) :
    Almacena cfg (insert (pid, pagina) S) t' := by
  have hcero := escribirSwap_global h.bien h.caso hr
  cases escribirSwap_cambio h.bien hr with
  | conserva hescribir _ _ _ =>
    have hmenos := hescribir _ _ _ rfl
    rw [hcero] at hmenos
    exact absurd hmenos (by decide)
  | guarda hcaso hg =>
    have hranura := hg.ranura hpagina
    refine ⟨hg.bien h.bien, hcaso.trans h.caso, ?_, fun k => ?_⟩
    · rw [hranura]
      exact h.unica.fill (fun hno => hk ((h.holds _).1 hno)) _
    · rw [hranura, holds_fill hg.ranura_libre, h.holds, Set.mem_insert_iff]

theorem Almacena.conseguirMarco (h : Almacena cfg S t) (huno : cfg.cantArchivos = 1)
    (hk : (pid, pagina) ∈ S) :
    ∃ i, conseguirMarco pid pagina t = some i ∧ i < cfg.cantMarcos ∧ pagina ≠ -1 := by
  obtain ⟨i, hi⟩ := (h.holds _).2 hk
  obtain ⟨m, -, hindice, hm⟩ := exists_of_ranura hi
  have hpagina : pagina ≠ -1 := (Prod.mk.inj hm).2 ▸ hindice
  have hlt := h.bien.lt_length hi
  rw [huno, Nat.mul_one] at hlt
  exact ⟨i, (conseguirMarco_of_unique hpagina h.unica).2 hi, hlt, hpagina⟩

theorem Almacena.leer (h : Almacena cfg S t) (huno : cfg.cantArchivos = 1)
    (hk : (pid, pagina) ∈ S) (hr : leerSwap cfg pid pagina basura t = .ok (r, t')) :
    Almacena cfg (S \ {(pid, pagina)}) t' := by
  obtain ⟨i, hi, hlt, hpagina⟩ := h.conseguirMarco huno hk
  have hcaso : t'.casoAsignacion = global :=
    ((leerSwap_cambio hr).caso fun _ => Peticion.noConfusion).trans h.caso
  obtain ⟨archivo, hs⟩ := leerSwap_sirve h.bien hpagina hi hr
  have hranura := hs.ranura_primero h.bien hpagina hlt
  have hocupada := conseguirMarco_eq_some hpagina hi
  refine ⟨hs.bien h.bien, hcaso, ?_, fun k => ?_⟩
  · rw [hranura]
    exact h.unica.release i
  · rw [hranura, holds_release h.unica hocupada, h.holds, Set.mem_sdiff, Set.mem_singleton_iff,
      and_comm]

end Contenido

section Espacio

variable {cfg : Config} {t u : Estado} {pid : ℤ} {x : ℕ}

theorem hayEspacioArchivo_congr (h : u.marcos = t.marcos) (archivo : Option String) :
    hayEspacioArchivo cfg archivo u = hayEspacioArchivo cfg archivo t := by
  unfold hayEspacioArchivo
  rw [h]

theorem exists_recibirPagina
    (hx : hayEspacioArchivo cfg (some (archivoPedido cfg pid t)) t = .ok (some x)) :
    ∃ u, recibirPagina cfg pid .escribir t = .ok (some (archivoPedido cfg pid t), u) ∧
      u.marcos = t.marcos := by
  cases ha : archivoDe pid t with
  | some a =>
    refine ⟨t, ?_, rfl⟩
    rw [recibirPagina_conocido ha, archivoPedido, ha, Option.getD_some]
  | none =>
    have hpedido : archivoPedido cfg pid t = archivoConMasEspacio cfg t := by
      rw [archivoPedido, ha, Option.getD_none]
    rw [hpedido] at hx ⊢
    rw [archivoDe_eq_find, Option.map_eq_none_iff] at ha
    simp only [recibirPagina, ha, hx, ok_bind]
    exact ⟨_, rfl, rfl⟩

theorem exists_chequearAsignacion (hcaso : t.casoAsignacion = global)
    (hx : hayEspacioArchivo cfg (some (archivoPedido cfg pid t)) t = .ok (some x)) :
    ∃ u, chequearAsignacion cfg pid t = .ok (0, u) := by
  obtain ⟨u, hu, hmarcos⟩ := exists_recibirPagina hx
  have hno : ¬ global = fija := by decide
  rw [← hayEspacioArchivo_congr hmarcos] at hx
  simp only [chequearAsignacion, hcaso, if_neg hno, if_true, hu, ok_bind, hx]
  exact ⟨u, rfl⟩

theorem exists_escribirSwap (hb : Bien cfg t) (hcaso : t.casoAsignacion = global)
    (hx : hayEspacioArchivo cfg (some (archivoPedido cfg pid t)) t = .ok (some x))
    (pagina : ℤ) (buffer : List UInt8) (basura : Basura) :
    ∃ r t', escribirSwap cfg pid pagina buffer basura t = .ok (r, t') := by
  obtain ⟨u, hu, hmarcos⟩ := exists_recibirPagina hx
  obtain ⟨-, hconocido, hconserva, hcaso'⟩ := recibirPagina_escribir hb hu
  rw [← hayEspacioArchivo_congr hmarcos] at hx
  have hpedido : archivoPedido cfg pid u = archivoPedido cfg pid t := by
    rw [archivoPedido, hconocido, Option.getD_some]
  obtain ⟨v, hv⟩ := exists_chequearAsignacion (hcaso'.trans hcaso)
    (hpedido ▸ hx)
  simp only [escribirSwap, hu, ok_bind, hx, hv, if_true]
  exact ⟨_, _, rfl⟩

end Espacio

section Mensajes

variable {C : Enlace} {historia : List Memoria.Mensaje} {S : Set (ℤ × ℤ)} {pid pagina : ℤ}
  {l : Linea} {contenido : List UInt8}

/-- As long as what the reads leave over is harmless, the connection goes on while there is room,
nothing in it stays unread, and the server holds the pages of `S`. -/
structure Enlace.Contiene (C : Enlace) (historia : List Memoria.Mensaje) (S : Set (ℤ × ℤ)) :
    Prop where
  sigue : C.Inocua historia → C.HayEspacio historia → ∃ l, C.linea historia = .ok l
  guarda : C.Inocua historia → ∀ l, C.linea historia = .ok l →
    l.AlDia ∧ Almacena C.swamp S l.servidor

/-- A page whose pid and number are values of an `int`, if the server holds the pages of `S`. -/
structure Enlace.Nombrable (C : Enlace) (S : Set (ℤ × ℤ)) (pid pagina : ℤ) : Prop where
  pid_pos : 0 < pid
  pid_lt : pid < 2 ^ 31
  pagina_pos : 0 < pagina
  pagina_lt : ∀ t, Almacena C.swamp S t → pagina < 2 ^ 31

theorem contiene_nil (C : Enlace) : C.Contiene [] ∅ where
  sigue := fun _ _ => ⟨C.lineaInicial, rfl⟩
  guarda := by
    intro _ l hl
    cases hl
    exact ⟨⟨rfl, rfl⟩, inicialGlobal_almacena _ _⟩

theorem Enlace.Contiene.escritura (h : C.Contiene historia S) (hn : C.Nombrable S pid pagina)
    (hk : (pid, pagina) ∉ S) (hcontenido : contenido.length = C.swamp.tamanioPagina) :
    C.Contiene (historia ++ [.escritura pid pagina contenido]) (insert (pid, pagina) S) := by
  have hpid := hn.pid_pos
  have hpos := hn.pagina_pos
  have hcodigo : takeExact 4 (encodeInt32 0) = some (encodeInt32 0, []) := rfl
  constructor
  · intro hinocua hespacio
    have hantes := hinocua.of_prefix (List.prefix_append _ _)
    obtain ⟨l, hl⟩ := h.sigue hantes hespacio.of_append
    obtain ⟨hdia, ht⟩ := h.guarda hantes l hl
    have hlt := hn.pagina_lt _ ht
    obtain ⟨libre, hlibre, hsome⟩ := exists_of_returns (hespacio.ultimo hl)
    obtain ⟨x, rfl⟩ := Option.isSome_iff_exists.1 hsome
    obtain ⟨r, t, hr⟩ := exists_escribirSwap ht.bien ht.caso hlibre pagina
      (C.cadena historia.length contenido ++ [0]) (C.basura historia.length)
    obtain rfl := escribirSwap_global ht.bien ht.caso hr
    have hintercambio := intercambiar_escritura (i := historia.length)
      ⟨pid, by omega, hn.pid_lt⟩ ⟨pagina, by omega, hlt⟩ hdia hcontenido
    dsimp only at hintercambio
    rw [hr] at hintercambio
    exact ⟨_, linea_append_eq_ok.2 ⟨l, _, hl, hintercambio⟩⟩
  · intro hinocua l' hl'
    have hantes := hinocua.of_prefix (List.prefix_append _ _)
    obtain ⟨l, o, hl, ho⟩ := linea_append_eq_ok.1 hl'
    obtain ⟨hdia, ht⟩ := h.guarda hantes l hl
    have hlt := hn.pagina_lt _ ht
    have hintercambio := intercambiar_escritura (i := historia.length)
      ⟨pid, by omega, hn.pid_lt⟩ ⟨pagina, by omega, hlt⟩ hdia hcontenido
    dsimp only at hintercambio
    rw [ho] at hintercambio
    obtain ⟨⟨r, t⟩, hr, hfin⟩ := bind_eq_ok.1 hintercambio.symm
    rw [mapError_eq_ok] at hr
    obtain rfl := escribirSwap_global ht.bien ht.caso hr
    dsimp only at hfin
    rw [hcodigo] at hfin
    cases hfin
    exact ⟨⟨rfl, rfl⟩, ht.escribir hk (by omega) hr⟩

theorem Enlace.Contiene.intercambiar (h : C.Contiene historia S) (hinocua : C.Inocua historia)
    (hl : C.linea historia = .ok l) (huno : C.swamp.cantArchivos = 1)
    (hn : C.Nombrable S pid pagina) (hk : (pid, pagina) ∈ S) :
    ∃ contenido t subida, C.intercambiar (historia.length, .lectura pid pagina) l =
        .ok (some contenido, ⟨t, subida, []⟩) ∧
      (C.inocuo historia.length (.lectura pid pagina) = true → subida = []) ∧
      Almacena C.swamp (S \ {(pid, pagina)}) t := by
  have hpos := hn.pid_pos
  have hpos' := hn.pagina_pos
  obtain ⟨hdia, ht⟩ := h.guarda hinocua l hl
  have hlt := hn.pagina_lt _ ht
  obtain ⟨r, t, hr⟩ := exists_leerSwap C.swamp pid pagina (C.basura historia.length) l.servidor
  obtain ⟨contenido, hlargo, rfl⟩ := leerSwap_conPagina ht.bien hr ((ht.holds _).2 hk)
  have hpid : pid ≠ -1 := by omega
  have hlectura := @lecturaSwamp_conPagina ⟨pid, by omega, hn.pid_lt⟩ hpid contenido pagina
    C.swamp.tamanioPagina
  rw [hlargo] at hlectura
  obtain ⟨subida, hsubida, hlimpia⟩ := intercambiar_lectura ⟨pid, by omega, hn.pid_lt⟩
    ⟨pagina, by omega, hlt⟩ hdia hr hlectura
  exact ⟨contenido, t, subida, hsubida, hlimpia, ht.leer huno hk hr⟩

theorem Enlace.Contiene.lectura (h : C.Contiene historia S) (huno : C.swamp.cantArchivos = 1)
    (hn : C.Nombrable S pid pagina) (hk : (pid, pagina) ∈ S) :
    C.Contiene (historia ++ [.lectura pid pagina]) (S \ {(pid, pagina)}) := by
  constructor
  · intro hinocua hespacio
    have hantes := hinocua.of_prefix (List.prefix_append _ _)
    obtain ⟨l, hl⟩ := h.sigue hantes hespacio.of_append
    obtain ⟨contenido, t, subida, hr, -⟩ := h.intercambiar hantes hl huno hn hk
    exact ⟨_, linea_append_eq_ok.2 ⟨l, _, hl, hr⟩⟩
  · intro hinocua l' hl'
    have hantes := hinocua.of_prefix (List.prefix_append _ _)
    obtain ⟨l, o, hl, ho⟩ := linea_append_eq_ok.1 hl'
    obtain ⟨contenido, t, subida, hr, hlimpia, ht⟩ := h.intercambiar hantes hl huno hn hk
    rw [ho] at hr
    cases hr
    exact ⟨⟨hlimpia hinocua.ultimo, rfl⟩, ht⟩

theorem Enlace.Contiene.leer_isSome (h : C.Contiene historia S) (hinocua : C.Inocua historia)
    (huno : C.swamp.cantArchivos = 1) (hn : C.Nombrable S pid pagina) (hk : (pid, pagina) ∈ S) :
    (C.leer historia pid pagina).isSome := by
  unfold Enlace.leer
  cases hlinea : C.linea historia with
  | error e => rfl
  | ok l =>
    obtain ⟨contenido, t, subida, hr, -⟩ := h.intercambiar hinocua hlinea huno hn hk
    simp only [hr]
    rfl

end Mensajes

end Carpinchos.Sistema
