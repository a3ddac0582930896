import Carpinchos.Library.Runs
import Carpinchos.Library.Wire

/-!
# SWAmP

The swap server: its table of slots (`marcos`), the carpinchos it knows, and the contents
of its swap files. A slot is named by its file and its number in the file when a page is
stored, and by its position in the list of all slots when a page is read.

What a request finds in memory that was never written is part of the request.
-/

namespace Carpinchos.Swamp

open Outcome Wire

/-- What stops the server: `strcmp` or an access through a null pointer, or a division by
zero. -/
inductive Falla
  | punteroNulo
  | divisionPorCero
  deriving DecidableEq, Repr

/-- The fields of `t_config_swamp` that the server reads. -/
structure Config where
  archivosSwamp : List String
  tamanioSwamp : ℕ
  tamanioPagina : ℕ
  marcosMaximos : ℕ
  archivos_ne : archivosSwamp ≠ []
  archivos_nodup : archivosSwamp.Nodup
  pagina_pos : 0 < tamanioPagina

/-- The number of swap files, which `obtenerCantArchivos` means to count. -/
def Config.cantArchivos (cfg : Config) : ℕ := cfg.archivosSwamp.length

def Config.cantMarcos (cfg : Config) : ℕ := cfg.tamanioSwamp / cfg.tamanioPagina

/-- Four slots in one file. -/
def unArchivo : Config where
  archivosSwamp := ["swap1.bin"]
  tamanioSwamp := 256
  tamanioPagina := 64
  marcosMaximos := 4
  archivos_ne := List.cons_ne_nil _ _
  archivos_nodup := List.nodup_singleton _
  pagina_pos := by decide

/-- `marco`. A free slot has `indice` -1. -/
structure Marco where
  archivo : String
  marco : ℕ
  indice : ℤ
  pid : ℤ
  deriving DecidableEq, Repr

structure Carpincho where
  pid : ℤ
  archivo : String
  cantMarcos : ℤ
  deriving DecidableEq, Repr

/-- The places of the swap files that the server writes and reads, in order. -/
inductive Acceso
  | escritura (pid pagina : ℤ) (archivo : String) (desplazamiento : ℕ) (bytes : List UInt8)
  | lectura (pid pagina : ℤ) (archivo : String) (desplazamiento : ℕ)
  deriving DecidableEq, Repr

/-- The globals of the server and its files. `accesos` is a history that nothing reads. -/
structure Estado where
  marcos : List Marco
  carpinchos : List Carpincho
  contenido : String → ℕ → UInt8
  casoAsignacion : ℤ
  accesos : List Acceso

/-- `estado`: the operation codes. -/
inductive CodOp
  | leer
  | escribir
  | puedeEscribir
  | casoAsignacion
  deriving DecidableEq, Repr

def CodOp.valor : CodOp → ℤ
  | leer => 11
  | escribir => 12
  | puedeEscribir => 13
  | casoAsignacion => 14

/-- FIJA and GLOBAL of `caso_asignacion`. -/
def fija : ℤ := 0

def global : ℤ := 1

/-- A request, with its fields in the order in which they are received. -/
inductive Peticion
  | leer (pid indicePagina : ℤ)
  | escribir (pid indicePagina : ℤ) (buffer : List UInt8)
  | puedeEscribir (pid cantPaginas : ℤ)
  | casoAsignacion (caso : ℤ)
  deriving DecidableEq, Repr

structure Basura where
  contenido : ℕ → UInt8
  buffer : ℕ → UInt8

/-- The number of bytes that `escribir_swap` copies, whatever the size of a page. -/
def bytesCopiados : ℕ := 64

section Inicio

variable (cfg : Config)

def Config.lugares : List (String × ℕ) :=
  cfg.archivosSwamp.flatMap fun archivo =>
    (List.range cfg.cantMarcos).map fun i => (archivo, i)

/-- `iniciar_marcos`. The pid of a slot stays uninitialised. -/
def iniciarMarcos (basura : ℕ → ℤ) : List Marco :=
  cfg.lugares.mapIdx fun j x =>
    { archivo := x.1, marco := x.2, indice := -1, pid := basura j }

/-- The server before the first request; `crear_archivos` fills the files with zeros. -/
def inicial (basura : ℕ → ℤ) : Estado where
  marcos := iniciarMarcos cfg basura
  carpinchos := []
  contenido := fun _ _ => 0
  casoAsignacion := fija
  accesos := []

end Inicio

section Consultas

variable (cfg : Config)

/-- The loop of `hayEspacioArchivo`, which goes one step beyond the end of the list. -/
def buscarLibre (archivo : String) : ℕ → List Marco → Except Falla (Option ℕ)
  | 0, _ => .ok none
  | _ + 1, [] => .error .punteroNulo
  | pasos + 1, unMarco :: resto =>
    if unMarco.archivo = archivo ∧ unMarco.indice = -1 then .ok (some unMarco.marco)
    else buscarLibre archivo pasos resto

/-- `hayEspacioArchivo`; `none` as a result is -1, as an argument `NULL`. -/
def hayEspacioArchivo (archivo : Option String) (s : Estado) : Except Falla (Option ℕ) :=
  match archivo with
  | none => .error .punteroNulo
  | some archivo => buscarLibre archivo (cfg.cantMarcos * cfg.cantArchivos + 1) s.marcos

def bytesDe (archivo : String) (s : Estado) : List UInt8 :=
  (List.range cfg.tamanioSwamp).map (s.contenido archivo)

/-- The counter of `archivoConMasEspacio`. The byte 255 read into a `char` equals `EOF`. -/
def contador (archivo : String) (s : Estado) : ℕ :=
  ((bytesDe cfg archivo s).takeWhile fun c => c ≠ 255).countP fun c => c ≠ 0

def archivoConMasEspacio (s : Estado) : String :=
  cfg.archivosSwamp.foldl
    (fun menor archivo => if contador cfg archivo s < contador cfg menor s then archivo else menor)
    (cfg.archivosSwamp.head cfg.archivos_ne)

/-- `recibirPagina`. Only ESCRIBIR registers a carpincho that is not known. -/
def recibirPagina (pid : ℤ) (operacion : CodOp) (s : Estado) :
    Except Falla (Option String × Estado) :=
  match s.carpinchos.find? fun c => c.pid = pid with
  | some c => .ok (some c.archivo, s)
  | none =>
    let archivo := archivoConMasEspacio cfg s
    match operacion with
    | .puedeEscribir => do
      match ← hayEspacioArchivo cfg (some archivo) s with
      | some _ => .ok (some archivo, s)
      | none => .ok (none, s)
    | .escribir => do
      match ← hayEspacioArchivo cfg (some archivo) s with
      | some _ =>
        let unCarpincho : Carpincho := { pid := pid, archivo := archivo, cantMarcos := 0 }
        .ok (some archivo, { s with carpinchos := s.carpinchos ++ [unCarpincho] })
      | none => .ok (none, s)
    | _ => .ok (none, s)

def conseguirMarco (pid indicePagina : ℤ) (s : Estado) : Option ℕ :=
  s.marcos.findIdx? fun m => m.pid = pid ∧ m.indice = indicePagina

/-- The free slots of a file, as `verSiHayPaginas` counts them. -/
def marcosLibres (archivo : String) (s : Estado) : ℕ :=
  s.marcos.countP fun m => m.archivo = archivo ∧ m.indice = -1

def verSiHayPaginas (cantPaginas : ℤ) (archivo : String) (s : Estado) : ℤ :=
  if cantPaginas ≤ marcosLibres archivo s then 0 else -1

/-- The counter loop of `chequearAsignacion`, the same for every file: the `d`-th carpincho
is compared with the `d`-th file, and there is no file after the last. -/
def contarCarpinchos : List Carpincho → List String → Except Falla ℕ
  | [], _ => .ok 0
  | _ :: _, [] => .error .punteroNulo
  | c :: cs, archivo :: archivos => do
    let contador ← contarCarpinchos cs archivos
    .ok (if c.archivo = archivo then contador + 1 else contador)

/-- `chequearAsignacion`. The loop of FIJA returns in its first step. -/
def chequearAsignacion (pid : ℤ) (s : Estado) : Except Falla (ℤ × Estado) :=
  if s.casoAsignacion = fija then
    match s.carpinchos with
    | [] => .ok (0, s)
    | c :: _ =>
      if c.pid = pid then .ok (if c.cantMarcos < cfg.marcosMaximos then 0 else -1, s)
      else do
        let contador ← contarCarpinchos s.carpinchos cfg.archivosSwamp
        if cfg.marcosMaximos = 0 then .error .divisionPorCero
        else
          let cantCarpinchos := cfg.tamanioSwamp / cfg.tamanioPagina / cfg.marcosMaximos
          .ok (if contador < cantCarpinchos then 0 else -1, s)
  else if s.casoAsignacion = global then do
    let (unArchivo, s) ← recibirPagina cfg pid .escribir s
    match ← hayEspacioArchivo cfg unArchivo s with
    | some _ => .ok (0, s)
    | none => .ok (-1, s)
  else .ok (-1, s)

end Consultas

section Operaciones

variable (cfg : Config)

/-- `actualizarMarcos`: every slot with this file and number. -/
def actualizarMarcos (archivo : String) (indiceMarco : ℕ) (indicePagina pid : ℤ) (s : Estado) :
    Estado :=
  { s with
    marcos := s.marcos.map fun iterador =>
      if iterador.archivo = archivo ∧ iterador.marco = indiceMarco then
        { iterador with indice := indicePagina, pid := pid }
      else iterador }

/-- `actualizarCarpincho`, with 1 for ESCRIBIR and -1 for LEER. -/
def actualizarCarpincho (cambio : ℤ) (pid : ℤ) (s : Estado) : Estado :=
  { s with
    carpinchos := s.carpinchos.map fun iterador =>
      if iterador.pid = pid then { iterador with cantMarcos := iterador.cantMarcos + cambio }
      else iterador }

/-- `memcpy` to the front of a buffer. -/
def pisar (nuevo viejo : List UInt8) : List UInt8 := nuevo ++ viejo.drop nuevo.length

/-- The bytes that `memcpy` finds from a buffer on, of which `buffer` was received. -/
def bytesDesde (buffer : List UInt8) (basura : ℕ → UInt8) : List UInt8 :=
  (List.range bytesCopiados).map fun j => buffer.getD j (basura j)

/-- The write through the mapping of a file. What the code writes past the mapping, where another
one may be, is kept here past the end of the file, where nothing is read. -/
def guardar (archivo : String) (desplazamiento : ℕ) (bytes : List UInt8) (s : Estado) : Estado :=
  { s with
    contenido := Function.update s.contenido archivo fun i =>
      if desplazamiento ≤ i ∧ i < desplazamiento + bytes.length then
        bytes.getD (i - desplazamiento) 0
      else s.contenido archivo i }

def escribirSwap (pid indicePagina : ℤ) (buffer : List UInt8) (basura : Basura) (s : Estado) :
    Except Falla (List UInt8 × Estado) := do
  let (archivo, s) ← recibirPagina cfg pid .escribir s
  let indiceMarco ← hayEspacioArchivo cfg archivo s
  match indiceMarco, archivo with
  | some indiceMarco, some archivo =>
    let (asignacion, s) ← chequearAsignacion cfg pid s
    if asignacion = 0 then
      let desplazamiento := cfg.tamanioPagina * indiceMarco
      let bytes := bytesDesde buffer basura.buffer
      let s := guardar archivo desplazamiento bytes s
      let s := { s with
        accesos := s.accesos ++ [.escritura pid indicePagina archivo desplazamiento bytes] }
      let s := actualizarMarcos archivo indiceMarco indicePagina pid s
      .ok (encodeInt32 0, actualizarCarpincho 1 pid s)
    else .ok (encodeInt32 (-1), s)
  | _, _ => .ok (encodeInt32 (-1), s)

def puedeEscribir (pid cantPaginas : ℤ) (s : Estado) : Except Falla (List UInt8 × Estado) := do
  let (archivo, s) ← recibirPagina cfg pid .puedeEscribir s
  let (asignacion, s) ← chequearAsignacion cfg pid s
  match archivo with
  | some archivo =>
    if asignacion = 0 then
      let hayPaginas := verSiHayPaginas cantPaginas archivo s
      .ok (encodeInt32 (if hayPaginas ≠ -1 then 1 else -1), s)
    else .ok (encodeInt32 (-1), s)
  | none => .ok (encodeInt32 (-1), s)

/-- Up to and including the first newline. -/
def hastaNuevaLinea : List UInt8 → List UInt8
  | [] => []
  | c :: cs => if c = 10 then [c] else c :: hastaNuevaLinea cs

/-- `fgets` of `n` bytes into a buffer, with `resto` what the file has from its position on.
At the end of the file the buffer stays as it was. -/
def fgets (n : ℕ) (resto buffer : List UInt8) : List UInt8 :=
  let linea := hastaNuevaLinea (resto.take (n - 1))
  if linea = [] ∧ n ≠ 1 then buffer else pisar (linea ++ [0]) buffer

def leerSwap (pid indicePagina : ℤ) (basura : Basura) (s : Estado) :
    Except Falla (List UInt8 × Estado) := do
  let (archivo, s) ← recibirPagina cfg pid .leer s
  let contenido := (List.range cfg.tamanioPagina).map basura.contenido
  match archivo with
  | some archivo =>
    match conseguirMarco pid indicePagina s with
    | some i =>
      let desplazamiento := i * cfg.tamanioPagina
      let contenido :=
        fgets cfg.tamanioPagina ((bytesDe cfg archivo s).drop desplazamiento) contenido
      let buffer := encodeInt32 pid ++ encodeInt32 indicePagina ++ encodeInt32 cfg.tamanioPagina ++
        contenido
      let s := { s with accesos := s.accesos ++ [.lectura pid indicePagina archivo desplazamiento] }
      let s := actualizarMarcos archivo i (-1) pid s
      .ok (buffer, actualizarCarpincho (-1) pid s)
    -- the reply is put together but not sent
    | none => .ok ([], s)
  | none =>
    -- each field is copied over the one before
    let buffer := (List.range (12 + cfg.tamanioPagina)).map basura.buffer
    let buffer := pisar (encodeInt32 (-1)) buffer
    let buffer := pisar (encodeInt32 indicePagina) buffer
    let buffer := pisar (encodeInt32 cfg.tamanioPagina) buffer
    .ok (pisar contenido buffer, s)

/-- `server_procesar_mensaje`: the bytes sent and the next state. The reply to an unknown
kind of assignment has no bytes. -/
def serverProcesarMensaje (x : Peticion × Basura) (s : Estado) :
    Except Falla (List UInt8 × Estado) :=
  match x.1 with
  | .leer pid indicePagina => leerSwap cfg pid indicePagina x.2 s
  | .escribir pid indicePagina buffer => escribirSwap cfg pid indicePagina buffer x.2 s
  | .puedeEscribir pid cantPaginas => puedeEscribir cfg pid cantPaginas s
  | .casoAsignacion caso =>
    if caso = fija ∨ caso = global then
      .ok (encodeInt32 0, { s with casoAsignacion := caso })
    else .ok ([], s)

end Operaciones

end Carpinchos.Swamp
