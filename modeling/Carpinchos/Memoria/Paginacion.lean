import Carpinchos.Memoria.Tlb

/-!
# Frames, page replacement and page access

The paging core of the memory module: the frame table, the two replacement
algorithms of the MMU, eviction to SWAmP, and the creation, reading and writing
of pages. Both eviction functions share their victim choice and their eviction
proper, and both access functions share the translation of the page.
-/

namespace Carpinchos.Memoria

open Estado Bytes

section Marcos

def esMarcoDe (p : ℕ) (s : Estado) (m : Marco) : Bool :=
  m.pid = (s.descriptor p).carpinchoPid ∧ m.pagina = (s.descriptor p).pagina

def paginaIsInCache (p : ℕ) (s : Estado) : Bool := s.marcosList.any (esMarcoDe p s)

def obtenerMarcoDeCache (p : ℕ) (s : Estado) : ℤ :=
  match s.marcosList.find? (esMarcoDe p s) with
  | some m => m.marco
  | none => -1

def anyMarcoFree (s : Estado) : Bool := s.marcosList.any fun m => m.isFree

def getFreeMarco (E : Entorno) (s : Estado) : Option Marco :=
  listGet (ordenarPor E (fun m : Marco => m.marco) (s.marcosList.filter fun m => m.isFree)) 0

/-- The source returns the invalid pointer -1 for a number that no frame has. -/
def getMarcoByMarcoNumber (numero : ℤ) (s : Estado) : Option Marco :=
  s.marcosList.find? fun m => m.marco = numero

def amountFrameUsedByCarpincho (c : Carpincho) (s : Estado) : ℕ :=
  (s.marcosList.filter fun m => m.pid = c.pid).length

end Marcos

section Cache

variable (E : Entorno)

/-- `get_marco_ptr`, as an offset into `CACHE`. -/
def getMarcoPtr (marco : ℤ) : ℕ := ((marco * E.config.tamanioPagina) % 2 ^ 32).toNat

/-- `escribir_en_cache`; the bound is computed in `uint32_t`. -/
def escribirEnCache (marco : ℤ) (buffer : List UInt8) (offset : ℕ) (s : Estado) : ℤ × Estado :=
  if E.config.tamanioPagina < (buffer.length + offset) % 2 ^ 32 then (-1, s)
  else (0, { s with cache := copy s.cache (getMarcoPtr E marco + offset) buffer })

/-- `retornar_contenido`; `none` is the invalid pointer -1. -/
def retornarContenido (marco : ℤ) (offset tamanio : ℕ) (s : Estado) : Option (List UInt8) :=
  if E.config.tamanioPagina < (offset + tamanio) % 2 ^ 32 then none
  else some (slice s.cache (getMarcoPtr E marco + offset) tamanio)

/-- Both bound checks add in `uint32_t`: an access that passes because the sum wraps
around leaves `CACHE`. -/
def accesoEnCache (offset tamanio : ℕ) : Except Falla Unit :=
  if E.config.tamanioPagina < (offset + tamanio) % 2 ^ 32 ∨ offset + tamanio < 2 ^ 32 then .ok ()
  else .error .fueraDeCache

def Marco.vacio (m : Marco) : Marco := { m with isFree := true, pagina := 0, pid := 0 }

def Marco.ocupado (pid pagina : ℤ) (m : Marco) : Marco :=
  { m with pid := pid, pagina := pagina, isFree := false }

def vaciarMarcoEnCache (marco : ℤ) (s : Estado) : Except Falla Estado :=
  match listGet s.marcosList marco with
  | none => .error .punteroNulo
  | some instancia => do
    let s := { s with cache := fill s.cache (getMarcoPtr E marco) E.config.tamanioPagina guion }
    let s :=
      match getTlbItemByMarcoNumber marco s with
      | some t => vaciarPaginaTlb t.entrada s
      | none => s
    .ok (s.setMarco instancia.marco Marco.vacio)

end Cache

section Candidatos

def getAllPagesInCache (s : Estado) : Except Falla (List ℕ) := do
  let paginas := s.carpinchosList.flatMap fun c => c.paginas
  paginasLegibles paginas s
  .ok (paginas.filter fun p => (s.descriptor p).bitPresencia)

def getPagesInCacheByCarpinchoPid (pid : ℤ) (s : Estado) : Except Falla (List ℕ) :=
  match getCarpincho pid s with
  | none => .error .punteroNulo
  | some c => do
    paginasLegibles c.paginas s
    .ok (c.paginas.filter fun p => paginaIsInCache p s)

def canCarpinchoAddMarcoToPage (E : Entorno) (c : Carpincho) (s : Estado) :
    Except Falla Bool := do
  let presentes ← getAllPagesInCache s
  let hayLugar := decide (presentes.length ≤ E.config.cantidadMarcos) && anyMarcoFree s
  match E.config.tipoAsignacion with
  | .dinamica => .ok hayLugar
  | .fija =>
    .ok (hayLugar && decide (amountFrameUsedByCarpincho c s < E.config.marcosPorCarpincho))

end Candidatos

section Lru

def getProximaASwampearByLru (E : Entorno) (paginas : List ℕ) (s : Estado) :
    Except Falla (ℕ × Estado) :=
  match ordenarPor E (fun p => ((s.descriptor p).timestamp : ℤ)) paginas with
  | [] => .error .candidatosVacios
  | p :: _ => .ok (p, s)

end Lru

section MClock

/-- One pass of the hand over the pages from position `j` on. The pass looks for a
page without use bit whose modified bit is `edit`; the second pass clears the use
bits that it goes over. -/
def pasada (edit limpia : Bool) : List ℕ → ℕ → Estado → Option (ℕ × ℕ) × Estado
  | [], _, s => (none, s)
  | p :: ps, j, s =>
    if (s.descriptor p).bitDeUso = false ∧ (s.descriptor p).bitDeModificacion = edit then
      (some (p, j), s)
    else
      pasada edit limpia ps (j + 1)
        (if limpia then s.setPagina p fun q => { q with bitDeUso := false } else s)

/-- Successive passes, each from the position where the hand stood. -/
def pasadas (ps : List ℕ) (j : ℕ) : List (Bool × Bool) → Estado → Option (ℕ × ℕ) × Estado
  | [], s => (none, s)
  | (edit, limpia) :: resto, s =>
    match pasada edit limpia ps j s with
    | (some r, s) => (some r, s)
    | (none, s) => pasadas ps j resto s

/-- Searched modified bit and clearing of use bits in each of the four passes. -/
def cuatroPasadas : List (Bool × Bool) :=
  [(false, false), (true, true), (false, false), (true, false)]

/-- `last_pointer_position`: under FIJA the hand belongs to the owner of the first page. -/
def lastPointerPosition (E : Entorno) (page : ℕ) (s : Estado) : Option ℕ :=
  match E.config.tipoAsignacion with
  | .fija => (getCarpincho (s.descriptor page).carpinchoPid s).map Carpincho.algoritmStackPointer
  | .dinamica => some s.algoritmStackPointer

/-- Leave the hand one position after the victim, or at 0 past the last page. -/
def avanzarPuntero (E : Entorno) (pid : ℤ) (j stackSize : ℕ) (s : Estado) : Estado :=
  let posicion := if stackSize ≤ j + 1 then 0 else j + 1
  match E.config.tipoAsignacion with
  | .fija => s.setCarpincho pid fun c => { c with algoritmStackPointer := posicion }
  | .dinamica => { s with algoritmStackPointer := posicion }

/-- `get_proxima_a_swampear_by_m_clock`. With an empty list the source dereferences
`NULL` under FIJA and falls off its end under DINAMICA. -/
def getProximaASwampearByMClock (E : Entorno) (paginas : List ℕ) (s : Estado) :
    Except Falla (ℕ × Estado) :=
  match ordenarPor E (fun p => (s.descriptor p).marco) paginas with
  | [] => .error .candidatosVacios
  | page :: resto =>
    match lastPointerPosition E page s with
    | none => .error .punteroNulo
    | some last =>
      match pasadas ((page :: resto).drop last) last cuatroPasadas s with
      | (none, _) => .error .sinRetorno
      | (some (p, j), s') =>
        .ok (p, avanzarPuntero E (s.descriptor page).carpinchoPid j (page :: resto).length s')

end MClock

section Swampear

variable (E : Entorno)

def paginasCandidatas (pid : ℤ) (s : Estado) : Except Falla (List ℕ) :=
  match E.config.tipoAsignacion with
  | .fija => getPagesInCacheByCarpinchoPid pid s
  | .dinamica => getAllPagesInCache s

/-- The choice of a victim, written out in both eviction functions. -/
def elegirPaginaASwampear (pid : ℤ) (s : Estado) : Except Falla (ℕ × Estado) := do
  let paginas ← paginasCandidatas E pid s
  match E.config.algoritmoReemplazoMmu with
  | .mClock => getProximaASwampearByMClock E paginas s
  | .lru => getProximaASwampearByLru E paginas s

/-- `enviar_escritura_swap` of the whole frame. SWAmP's answer is not looked at. -/
def enviarEscrituraSwap (v : ℕ) (s : Estado) : Estado :=
  let pagina := s.descriptor v
  let contenido := (retornarContenido E pagina.marco 0 E.config.tamanioPagina s).getD []
  { s with mensajes := s.mensajes ++ [.escritura pagina.carpinchoPid pagina.pagina contenido] }

/-- M-CLOCK skips the write-back of a page whose modified bit is off. -/
def guardarEnSwamp (v : ℕ) (s : Estado) : Estado :=
  if E.config.algoritmoReemplazoMmu = .mClock ∧ (s.descriptor v).bitDeModificacion = false then s
  else enviarEscrituraSwap E v s

/-- The eviction proper, written out in both functions: the victim is saved, its frame
is cleared and given to the page `(pid, pagina)`. -/
def desalojarPagina (v : ℕ) (pid pagina : ℤ) (s : Estado) : Except Falla (ℤ × Estado) := do
  let s := guardarEnSwamp E v s
  let marco := (s.descriptor v).marco
  let s ← vaciarMarcoEnCache E marco s
  match getMarcoByMarcoNumber marco s with
  | none => .error .punteroNulo
  | some instancia =>
    let s := s.setMarco instancia.marco (Marco.ocupado pid pagina)
    .ok (instancia.marco, s.setPagina v fun q => { q with bitPresencia := false, marco := 0 })

/-- `lectura_swamp`: -1 when SWAmP refuses the page. -/
def lecturaSwamp (pid pagina marco : ℤ) (s : Estado) : ℤ × Estado :=
  let respuesta := E.leerSwamp s.mensajes pid pagina
  let s := { s with mensajes := s.mensajes ++ [.lectura pid pagina] }
  match respuesta with
  | none => (-1, s)
  | some contenido => (0, (escribirEnCache E marco contenido 0 s).2)

def swampearPagina (pid pagina : ℤ) (s : Estado) : Except Falla (ℤ × Estado) := do
  let (v, s) ← elegirPaginaASwampear E pid s
  if paginaIsInCache v s then
    let (marco, s) ← desalojarPagina E v pid pagina s
    let (estado, s) := lecturaSwamp E pid pagina marco s
    .ok (if estado ≠ -1 then marco else -1, s)
  else .ok (-1, s)

def swampearPaginaWhenCreatePage (pid pagina : ℤ) (s : Estado) : Except Falla (ℤ × Estado) := do
  let (v, s) ← elegirPaginaASwampear E pid s
  desalojarPagina E v pid pagina s

end Swampear

section Traduccion

variable (E : Entorno)

/-- `get_marco_de_tlb`, with the call it makes back to `obtener_marco_para_pagina`. -/
def getMarcoDeTlb (obtenerMarco : ℕ → Estado → Except Falla (ℤ × Estado)) (p : ℕ) (s : Estado) :
    Except Falla (ℤ × Estado) :=
  if paginaIsInTlb p s then
    match getTlbItem p s with
    | none => .error .punteroNulo
    | some t =>
      match getMarcoByMarcoNumber t.marco s with
      | none => .error .punteroNulo
      | some marco =>
        if esMarcoDe p s marco then .ok (t.marco, s)
        else
          obtenerMarco p
            (vaciarPaginaTlb t.entrada { s with ramas := s.ramas ++ [.reparacionTlb] })
  else .ok (-1, s)

/-- The translation of a page that the TLB does not map. -/
def obtenerMarcoSinTlb (p : ℕ) (s : Estado) : Except Falla (ℤ × Estado) :=
  if paginaIsInCache p s then do
    let s ← tlbMiss p s
    .ok (obtenerMarcoDeCache p s, s)
  else do
    let s ← tlbHit p s
    swampearPagina E (s.descriptor p).carpinchoPid (s.descriptor p).pagina s

/-- `obtener_marco_para_pagina`. The recursion through `get_marco_de_tlb` empties an
entry each time, which bounds its depth. -/
def obtenerMarcoParaPagina : ℕ → ℕ → Estado → Except Falla (ℤ × Estado)
  | 0, _, _ => .error .recursionInfinita
  | fuel + 1, p, s =>
    if paginaIsInTlb p s then do
      let s ← tlbHit p s
      let (marco, s) ← getMarcoDeTlb (obtenerMarcoParaPagina fuel) p s
      let s ← refrescarTlb E p s
      .ok (marco, s)
    else do
      let (marco, s) ← obtenerMarcoSinTlb E p s
      let s ← actualizarTlb E p marco s
      .ok (marco, s)

/-- The first half of `leer_en_pagina` and `escribir_en_pagina`: translate the page and
check that it is in place. `none` is the branch that returns -1. -/
def traerPagina (p : ℕ) (s : Estado) : Except Falla (Option ℤ × Estado) := do
  paginasLegibles [p] s
  let s ← (if paginaIsInTlb p s then refrescarTlb E p s else .ok s)
  let (marco, s) ← obtenerMarcoParaPagina E (s.tlbList.length + 1) p s
  let s := s.setPagina p fun q => { q with marco := marco }
  if marco = -1 then .ok (none, s)
  else
    let s := s.setPagina p fun q => { q with bitPresencia := true }
    .ok (if paginaIsInCache p s && paginaIsInTlb p s then some marco else none, s)

/-- The bookkeeping after an access, of which M-CLOCK sets the modified bit on writes. -/
def marcarAcceso (esEscritura : Bool) (p : ℕ) (s : Estado) : Except Falla Estado :=
  match E.config.algoritmoReemplazoMmu with
  | .mClock =>
    .ok (s.setPagina p fun q =>
      { q with bitDeUso := true, bitDeModificacion := esEscritura || q.bitDeModificacion })
  | .lru => do
    let (ts, s) ← obtenerTimeStamp s
    .ok (s.setPagina p fun q => { q with timestamp := ts })

def leerEnPagina (p tamanio offset : ℕ) (s : Estado) :
    Except Falla (Option (List UInt8) × Estado) := do
  let (marco, s) ← traerPagina E p s
  match marco with
  | none => .ok (none, s)
  | some marco =>
    accesoEnCache E offset tamanio
    let result := retornarContenido E marco offset tamanio s
    let s ← marcarAcceso E false p s
    .ok (result, s)

def escribirEnPagina (p : ℕ) (buffer : List UInt8) (offset : ℕ) (s : Estado) :
    Except Falla (ℤ × Estado) := do
  let (marco, s) ← traerPagina E p s
  match marco with
  | none => .ok (-1, s)
  | some marco =>
    accesoEnCache E offset buffer.length
    let (result, s) := escribirEnCache E marco buffer offset s
    let s ← marcarAcceso E true p s
    .ok (result, s)

end Traduccion

section Creacion

variable (E : Entorno)

/-- The descriptor that `create_pagina` allocates. The bits stay unset under LRU and
the timestamp under M-CLOCK, where neither is read. -/
def paginaNueva (pid : ℤ) (numero : ℕ) : Pagina :=
  { marco := 0, carpinchoPid := pid, pagina := numero, bitPresencia := false, bitDeUso := false,
    bitDeModificacion := false, timestamp := 0, liberada := false }

/-- The frame of a new page: a free one if the carpincho may take it, else a victim's. -/
def marcoParaPaginaNueva (beforeValue : Bool) (pid pagina : ℤ) (s : Estado) :
    Except Falla (ℤ × Estado) :=
  if beforeValue then
    match getFreeMarco E s with
    | none => .error .punteroNulo
    | some m => .ok (m.marco, s)
  else swampearPaginaWhenCreatePage E pid pagina s

def marcarCreacion (p : ℕ) (s : Estado) : Except Falla Estado :=
  match E.config.algoritmoReemplazoMmu with
  | .mClock =>
    .ok (s.setPagina p fun q => { q with bitDeUso := true, bitDeModificacion := false })
  | .lru => do
    let (ts, s) ← obtenerTimeStamp s
    .ok (s.setPagina p fun q => { q with timestamp := ts })

def createPagina (pid : ℤ) (s : Estado) : Except Falla (ℕ × Estado) :=
  match getCarpincho pid s with
  | none => .error .punteroNulo
  | some carpincho => do
    let p := s.proximoPtr
    let numero := carpincho.paginas.length + 1
    let s := { s with proximoPtr := p + 1 }
    let beforeValue ← canCarpinchoAddMarcoToPage E carpincho s
    let s := s.setPagina p fun _ => paginaNueva carpincho.pid numero
    let (marco, s) ← marcoParaPaginaNueva E beforeValue carpincho.pid numero s
    match getMarcoByMarcoNumber marco s with
    | none => .error .punteroNulo
    | some instancia =>
      let s := s.setPagina p fun q => { q with marco := marco, bitPresencia := true }
      let s := s.setMarco instancia.marco (Marco.ocupado carpincho.pid numero)
      let s ← actualizarTlb E p instancia.marco s
      let s ← marcarCreacion E p s
      .ok (p, s.setCarpincho carpincho.pid fun c => { c with paginas := c.paginas ++ [p] })

end Creacion

section Operaciones

inductive Operacion
  | createCarpincho (pid : ℤ)
  | createPagina (pid : ℤ)
  | leerEnPagina (pid pagina : ℤ) (tamanio offset : ℕ)
  | escribirEnPagina (pid pagina : ℤ) (buffer : List UInt8) (offset : ℕ)

inductive Resultado
  | carpincho (pid : ℤ)
  | pagina (p : ℕ)
  | bytes (contenido : Option (List UInt8))
  | codigo (result : ℤ)
  deriving DecidableEq, Repr

def buscarPagina (pid pagina : ℤ) (s : Estado) : Except Falla ℕ :=
  match getPageByInts pid pagina s with
  | .ok (some p) => .ok p
  | .ok none => .error .operandoInexistente
  | .error .punteroNulo => .error .operandoInexistente
  | .error e => .error e

def paso (E : Entorno) (op : Operacion) (s : Estado) : Except Falla (Resultado × Estado) :=
  match op with
  | .createCarpincho pid => .ok (.carpincho pid, createCarpincho pid s)
  | .createPagina pid =>
    if existCarpincho pid s then do
      let (p, s) ← createPagina E pid s
      .ok (.pagina p, s)
    else .error .operandoInexistente
  | .leerEnPagina pid pagina tamanio offset => do
    let p ← buscarPagina pid pagina s
    let (contenido, s) ← leerEnPagina E p tamanio offset s
    .ok (.bytes contenido, s)
  | .escribirEnPagina pid pagina buffer offset => do
    let p ← buscarPagina pid pagina s
    let (result, s) ← escribirEnPagina E p buffer offset s
    .ok (.codigo result, s)

end Operaciones

end Carpinchos.Memoria
