import Carpinchos.Memoria.Heap

/-!
# The calls of the memory module

`memory_memalloc`, `memory_memwrite`, `memory_memread`, `memory_memfree` and
`memory_memfree_all`. Each works on the allocs of one carpincho and reaches the bytes of
its pages through the paging functions. A pointer to the carpincho is its pid, and what it
points to is read again after every call that may change it.
-/

namespace Carpinchos.Memoria

open Estado Wire

variable (E : Entorno)

section Carpinchos

def carpinchoDe (pid : ℤ) (s : Estado) : Except Falla Carpincho :=
  match getCarpincho pid s with
  | some c => .ok c
  | none => .error .punteroNulo

def setAllocs (pid : ℤ) (allocs : List Alloc) (s : Estado) : Estado :=
  s.setCarpincho pid fun c => { c with allocs := allocs }

end Carpinchos

section Acciones

structure PaginaAccion where
  pagina : ℕ
  direcciones : List ℕ
  deriving DecidableEq, Repr

/-- `obtener_pagina_accion_by_indice`, and the note of one more offset. -/
def anotar (pagina offset : ℕ) : List PaginaAccion → List PaginaAccion
  | [] => [{ pagina := pagina, direcciones := [offset] }]
  | accion :: acciones =>
    if accion.pagina = pagina then
      { accion with direcciones := accion.direcciones ++ [offset] } :: acciones
    else accion :: anotar pagina offset acciones

/-- The accesses to `size` bytes from an address on, by page. -/
def acciones (cfg : Config) (pos size : ℕ) : List PaginaAccion :=
  (List.range size).foldl
    (fun acciones i => anotar (aUint32 (pos + i) / cfg.tamanioPagina)
      (aUint32 (pos + i) % cfg.tamanioPagina) acciones) []

/-- The loop that writes a value page by page. The piece of the value for a page starts
where the piece of the page before it would end if it began at 0. -/
def escribirAcciones (pagina : ℕ → Estado → Except Falla ℕ) (valor : List UInt8) :
    List PaginaAccion → ℕ → Estado → Except Falla Estado
  | [], _, s => .ok s
  | escritura :: escrituras, sizeAnterior, s => do
    let sizeVal := escritura.direcciones.length
    let page ← pagina escritura.pagina s
    let valorAcotado := (valor.drop sizeAnterior).take sizeVal
    let (_, s) ← escribirEnPagina E page valorAcotado (escritura.direcciones.headD 0) s
    escribirAcciones pagina valor escrituras sizeVal s

def copiarEn (buffer : List UInt8) (desde : ℕ) (bytes : List UInt8) : List UInt8 :=
  buffer.take desde ++ bytes ++ buffer.drop (desde + bytes.length)

/-- The loop of `memory_memread`, with the same start of each piece. The pointer -1 that
`leer_en_pagina` gives for a page without a frame is followed. -/
def leerAcciones (pagina : ℕ → Estado → Except Falla ℕ) :
    List PaginaAccion → ℕ → List UInt8 → Estado → Except Falla (List UInt8 × Estado)
  | [], _, buffer, s => .ok (buffer, s)
  | lectura :: lecturas, sizeAnterior, buffer, s => do
    let tamanio := lectura.direcciones.length
    let page ← pagina lectura.pagina s
    let (resultadoParcial, s) ← leerEnPagina E page tamanio (lectura.direcciones.headD 0) s
    match resultadoParcial with
    | none => .error .punteroNulo
    | some bytes =>
      leerAcciones pagina lecturas tamanio (copiarEn buffer sizeAnterior bytes) s

/-- `get_page(carpincho, pagina + 1)`. -/
def paginaPorNumero (pid : ℤ) (pagina : ℕ) (s : Estado) : Except Falla ℕ := do
  let carpincho ← carpinchoDe pid s
  match ← getPage carpincho (aInt (pagina + 1)) s with
  | some p => .ok p
  | none => .error .punteroNulo

/-- `list_get(carpincho->paginas, pagina)`. -/
def paginaPorIndice (pid : ℤ) (pagina : ℕ) (s : Estado) : Except Falla ℕ := do
  let carpincho ← carpinchoDe pid s
  match listGet carpincho.paginas (aInt pagina) with
  | some p => .ok p
  | none => .error .punteroNulo

end Acciones

section Metadata

/-- The nine bytes of a `t_heap_metadata`. -/
def heapMetadata (prevAlloc nextAlloc : ℕ) (isFree : Bool) : List UInt8 :=
  encodeInt32 prevAlloc ++ encodeInt32 nextAlloc ++ [if isFree then 1 else 0]

def metadataDe (allocs : List Alloc) (indice : ℕ) (isFree : Bool) : List UInt8 :=
  let dirPrev := if indice = 0 then 0 else (allocs[indice - 1]?.map Alloc.direccion).getD 0
  let dirNext := (allocs[indice + 1]?.map Alloc.direccion).getD 0
  heapMetadata dirPrev dirNext isFree

def escribirHeapMemoriaFisica (pid : ℤ) (heap : List UInt8) (pos : ℕ) (s : Estado) :
    Except Falla Estado :=
  escribirAcciones E (paginaPorNumero pid) heap (acciones E.config pos 9) 0 s

def persistirMetadataHeap (pid : ℤ) (unAlloc : Alloc) (s : Estado) : Except Falla Estado := do
  let carpincho ← carpinchoDe pid s
  let indice ← obtenerIndiceDeAlloc carpincho.allocs unAlloc.direccion
  escribirHeapMemoriaFisica E pid (metadataDe carpincho.allocs indice unAlloc.isFree)
    unAlloc.direccion s

end Metadata

section Memalloc

/-- `check_size_swamp`: the answer is an `int`, turned into a `bool`. -/
def checkSizeSwamp (pid cantPag : ℤ) (s : Estado) : Bool × Estado :=
  (decide (E.puedeEscribirSwamp s.mensajes pid cantPag ≠ 0),
    { s with mensajes := s.mensajes ++ [.consulta pid cantPag] })

/-- The request to SWAmP for the pages that are missing. -/
def solicitarPaginas (pid espacioLibreActual size : ℤ) (s : Estado) :
    Except Falla (CheckAllocRespuesta × Estado) := do
  let cantPag ← calcularCantidadPaginasNecesaria E.config espacioLibreActual size
  let (puede, s) := checkSizeSwamp E pid cantPag s
  .ok (if puede then .allocSolicitarPagina else .allocSinEspacio, s)

/-- `check_alloc` over the answers that it gives without asking SWAmP and over what asks it from
the space that is free. -/
def planAlloc {α : Type} (cfg : Config) (paginas : ℕ) (allocs : List Alloc) (size : ℤ)
    (responder : CheckAllocRespuesta → α) (pedir : ℤ → Except Falla α) : Except Falla α := do
  match ← recorrerAllocs size allocs 0 with
  | none => .ok (responder .allocHeap)
  | some espacioOcupado =>
    let espacioLibreActual ← enInt (espacioTotal cfg paginas - espacioOcupado)
    let necesario ← enInt (size + 9)
    if necesario ≤ espacioLibreActual then .ok (responder .allocPagina)
    else
      match cfg.tipoAsignacion with
      | .fija =>
        let espacioTeoricoSolicitar := aInt ((cfg.marcosPorCarpincho - paginas) * cfg.tamanioPagina)
        let disponibleTeorico ← enInt (espacioTeoricoSolicitar + espacioLibreActual)
        if necesario ≤ disponibleTeorico then pedir espacioLibreActual
        else .ok (responder .allocSinEspacio)
      | .dinamica => pedir espacioLibreActual

def checkAlloc (carpincho : Carpincho) (size : ℤ) (s : Estado) :
    Except Falla (CheckAllocRespuesta × Estado) :=
  planAlloc E.config carpincho.paginas.length carpincho.allocs size
    (fun respuesta => (respuesta, s))
    fun espacioLibreActual => solicitarPaginas E carpincho.pid espacioLibreActual size s

def crearPaginas (pid : ℤ) : ℕ → Estado → Except Falla Estado
  | 0, s => .ok s
  | n + 1, s => do
    let (_, s) ← createPagina E pid s
    crearPaginas pid n s

/-- `asignar_paginas_carpincho`. The counter ends one above the last page. -/
def asignarPaginasCarpincho (pid cantPag : ℤ) (s : Estado) : Except Falla Estado := do
  let s ← crearPaginas E pid cantPag.toNat s
  let _ ← enInt (cantPag + 1)
  .ok s

def memallocAsignarEnHeapLibre (pid : ℤ) (size : ℕ) (s : Estado) : Except Falla (ℕ × Estado) := do
  let carpincho ← carpinchoDe pid s
  let asignado ← asignarEnHeapLibre size carpincho.allocs
  let s := setAllocs pid asignado.allocs s
  match asignado.nuevoAlloc with
  | none => .ok (asignado.direccion, s)
  | some nuevoAlloc =>
    let s ← persistirMetadataHeap E pid nuevoAlloc s
    .ok (asignado.direccion, s)

def memallocAsignarEnPaginaConEspacio (pid : ℤ) (size : ℕ) (s : Estado) :
    Except Falla (ℕ × Estado) := do
  let carpincho ← carpinchoDe pid s
  .ok (inicioDatoAlFinal carpincho.allocs,
    setAllocs pid (carpincho.allocs ++ [allocAlFinal size carpincho.allocs]) s)

def memallocAsignarEnPaginasNuevas (pid : ℤ) (size : ℕ) (s : Estado) :
    Except Falla (ℕ × Estado) := do
  let carpincho ← carpinchoDe pid s
  let espacioOcupado ← sumarAllocs carpincho.allocs 0
  let espacioLibre ← enInt (espacioTotal E.config carpincho.paginas.length - espacioOcupado)
  let cantPag ← calcularCantidadPaginasNecesaria E.config espacioLibre (aInt size)
  let s ← asignarPaginasCarpincho E pid cantPag s
  memallocAsignarEnPaginaConEspacio pid size s

/-- The first part of `memory_memalloc`: where the block can go. An unknown carpincho is
created if SWAmP has room for its pages. -/
def planificarMemalloc (pid : ℤ) (size : ℕ) (s : Estado) :
    Except Falla (CheckAllocRespuesta × Estado) :=
  match getCarpincho pid s with
  | none => do
    let cantPag ← calcularCantidadPaginasNecesaria E.config 0 (aInt size)
    let (puede, s) := checkSizeSwamp E pid cantPag s
    .ok (if puede then (.allocSolicitarPagina, createCarpincho pid s) else (.allocSinEspacio, s))
  | some carpincho => checkAlloc E carpincho (aInt size) s

def asignarMemalloc (pid : ℤ) (size : ℕ) (checkStatus : CheckAllocRespuesta) (s : Estado) :
    Except Falla (Option ℕ × Estado) :=
  match checkStatus with
  | .allocSinEspacio => .ok (none, s)
  | .allocHeap => do
    let (direccion, s) ← memallocAsignarEnHeapLibre E pid size s
    .ok (some direccion, s)
  | .allocPagina => do
    let (direccion, s) ← memallocAsignarEnPaginaConEspacio pid size s
    .ok (some direccion, s)
  | .allocSolicitarPagina => do
    let (direccion, s) ← memallocAsignarEnPaginasNuevas E pid size s
    .ok (some direccion, s)

/-- The last part: the metadata of the block is written. -/
def persistirDireccion (pid : ℤ) (direccion : ℕ) (s : Estado) : Except Falla Estado := do
  let carpincho ← carpinchoDe pid s
  match obtenerAllocDeUnCarpincho carpincho.allocs direccion with
  | none => .error .punteroNulo
  | some alloc => persistirMetadataHeap E pid alloc s

def memoryMemalloc (pid : ℤ) (size : ℕ) (s : Estado) :
    Except Falla ((StatusMemoryOp × Option ℕ) × Estado) := do
  let (checkStatus, s) ← planificarMemalloc E pid size s
  let (direccion, s) ← asignarMemalloc E pid size checkStatus s
  match direccion with
  | none => .ok ((.sinEspacio, none), s)
  | some direccion =>
    let s ← persistirDireccion E pid direccion s
    .ok ((.exito, some direccion), s)

end Memalloc

section Acceso

/-- The loops of `memory_memwrite` and `memory_memread` count in `int`. -/
def contarHasta (size : ℕ) : Except Falla Unit :=
  if size < 2 ^ 31 then .ok () else .error .desbordamiento

def memoryMemwrite (pid : ℤ) (pos : ℕ) (valor : List UInt8) (s : Estado) :
    Except Falla (StatusMemoryOp × Estado) :=
  match getCarpincho pid s with
  | none => .ok (.direccionInvalida, s)
  | some carpincho =>
    if validarDireccionLogicaEscrituraConSize E.config carpincho.paginas.length carpincho.allocs
        pos valor.length then
      match obtenerAllocDeUnCarpincho carpincho.allocs pos with
      | none => .error .punteroNulo
      | some alloc =>
        let dirFinAlloc := aUint32 (alloc.direccion + 9 + alloc.tamanioData - 1)
        let bytesDisponibles := aUint32 (dirFinAlloc - pos + 1)
        if bytesDisponibles < valor.length then .ok (.direccionInvalida, s)
        else do
          contarHasta valor.length
          let s ← escribirAcciones E (paginaPorIndice pid) valor
            (acciones E.config pos valor.length) 0 s
          .ok (.exito, s)
    else .ok (.direccionInvalida, s)

/-- The buffer of the caller has the size of the read. -/
def memoryMemread (pid : ℤ) (pos : ℕ) (buffer : List UInt8) (s : Estado) :
    Except Falla ((StatusMemoryOp × List UInt8) × Estado) :=
  match getCarpincho pid s with
  | none => .ok ((.direccionInvalida, buffer), s)
  | some carpincho =>
    if validarDireccionLogicaEscrituraConSize E.config carpincho.paginas.length carpincho.allocs
        pos buffer.length then do
      contarHasta buffer.length
      let (buffer, s) ← leerAcciones E (paginaPorIndice pid)
        (acciones E.config pos buffer.length) 0 buffer s
      .ok ((.exito, buffer), s)
    else .ok ((.direccionInvalida, buffer), s)

end Acceso

section Memfree

/-- `compactar_pagina` on the pages: the one at the position of its number is removed from
the list, and the descriptor that takes its place there is freed. -/
def quitarPagina (pid : ℤ) (pag : ℕ) (s : Estado) : Except Falla Estado := do
  paginasLegibles [pag] s
  let carpincho ← carpinchoDe pid s
  let indicePag ← enInt ((s.descriptor pag).pagina - 1)
  if 0 ≤ indicePag ∧ indicePag < carpincho.paginas.length then
    let paginas := carpincho.paginas.eraseIdx indicePag.toNat
    let s := s.setCarpincho pid fun c => { c with paginas := paginas }
    match paginas[indicePag.toNat]? with
    | none => .ok s
    | some q =>
      paginasLegibles [q] s
      .ok (s.setPagina q fun r => { r with liberada := true })
  else .error .punteroNulo

/-- `compactar`, which returns after the first page. -/
def compactar (pid : ℤ) (s : Estado) : Except Falla (Bool × Estado) := do
  let carpincho ← carpinchoDe pid s
  match carpincho.paginas with
  | [] => .error .sinRetorno
  | pag :: _ =>
    let deLaPagina ← allocsDePagina E.config 0 carpincho.allocs
    if todosLosAllocsEstanLibres deLaPagina then
      let allocs ← compactarAllocs deLaPagina carpincho.allocs
      let s ← quitarPagina pid pag (setAllocs pid allocs s)
      .ok (true, s)
    else .ok (false, s)

/-- The loop at the end of `memory_memfree`. Every turn but the last removes an alloc. -/
def compactarMientras (pid : ℤ) : ℕ → Estado → Except Falla Estado
  | 0, _ => .error .recursionInfinita
  | fuel + 1, s => do
    let (resultado, s) ← compactar E pid s
    if resultado then compactarMientras pid fuel s else .ok s

def memoryMemfree (pid : ℤ) (pos : ℕ) (s : Estado) : Except Falla (StatusMemoryOp × Estado) :=
  match getCarpincho pid s with
  | none => .ok (.direccionInvalida, s)
  | some carpincho =>
    if validarDireccionLogica E.config carpincho.paginas.length pos then do
      match ← liberarAlloc carpincho.allocs pos with
      | none => .ok (.direccionInvalida, s)
      | some (allocs, alloc) =>
        let s ← persistirMetadataHeap E pid alloc (setAllocs pid allocs s)
        let s ← compactarMientras E pid (allocs.length + 1) s
        .ok (.exito, s)
    else .ok (.direccionInvalida, s)

/-- `close_carpincho`, of which the descriptors of the pages remain to be seen. -/
def closeCarpincho (carpincho : Carpincho) (s : Estado) : Except Falla Estado := do
  paginasLegibles carpincho.paginas s
  .ok (carpincho.paginas.foldl (fun s p => s.setPagina p fun q => { q with liberada := true }) s)

/-- `memory_memfree_all`: the last carpincho with the pid leaves the list. -/
def memoryMemfreeAll (pid : ℤ) (s : Estado) : Except Falla (StatusMemoryOp × Estado) :=
  match getCarpincho pid s with
  | none => .ok (.direccionInvalida, s)
  | some carpincho => do
    let index := s.carpinchosList.length - 1 -
      (s.carpinchosList.reverse.findIdx fun c => c.pid = pid)
    let s := { s with carpinchosList := s.carpinchosList.eraseIdx index }
    let s ← closeCarpincho carpincho s
    .ok (.exito, s)

end Memfree

section Llamadas

inductive Llamada
  | memalloc (pid : ℤ) (size : ℕ)
  | memwrite (pid : ℤ) (pos : ℕ) (valor : List UInt8)
  | memread (pid : ℤ) (pos : ℕ) (buffer : List UInt8)
  | memfree (pid : ℤ) (pos : ℕ)
  | memfreeAll (pid : ℤ)
  deriving DecidableEq, Repr

structure Respuesta where
  status : StatusMemoryOp
  direccion : Option ℕ
  buffer : Option (List UInt8)
  deriving DecidableEq, Repr

def llamar (op : Llamada) (s : Estado) : Except Falla (Respuesta × Estado) :=
  match op with
  | .memalloc pid size => do
    let (r, s) ← memoryMemalloc E pid size s
    .ok (⟨r.1, r.2, none⟩, s)
  | .memwrite pid pos valor => do
    let (status, s) ← memoryMemwrite E pid pos valor s
    .ok (⟨status, none, none⟩, s)
  | .memread pid pos buffer => do
    let (r, s) ← memoryMemread E pid pos buffer s
    .ok (⟨r.1, none, some r.2⟩, s)
  | .memfree pid pos => do
    let (status, s) ← memoryMemfree E pid pos s
    .ok (⟨status, none, none⟩, s)
  | .memfreeAll pid => do
    let (status, s) ← memoryMemfreeAll pid s
    .ok (⟨status, none, none⟩, s)

end Llamadas

end Carpinchos.Memoria
