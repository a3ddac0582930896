import Carpinchos.Memoria.Huella
import Carpinchos.Memoria.Rechazo

/-!
# The pages of each carpincho

What the lists of pages, the descriptors and the tables say about each other as long as no
page that is in the tables leaves its carpincho. Each call of the module that takes no such
page away keeps it, whatever the calls ask for and whatever SWAmP answers.
-/

namespace Carpinchos.Memoria

open Outcome Estado

section Definiciones

def PaginaDe (s : Estado) (pid pagina : ℤ) : Prop :=
  ∃ c ∈ s.carpinchosList, c.pid = pid ∧ ∃ p ∈ c.paginas, (s.descriptor p).nombre = (pid, pagina)

def Tlb.enUso (t : Tlb) : Bool := decide (t.pid ≠ 0) || decide (t.marco ≠ -1)

/-- The page at a position of a carpincho carries its pid and the number after the position,
and its descriptor has not been freed. -/
structure Numeradas (s : Estado) : Prop where
  numeros : ∀ c ∈ s.carpinchosList, ∀ k p, c.paginas[k]? = some p →
    (s.descriptor p).nombre = (c.pid, ((k + 1 : ℕ) : ℤ))
  vivas : ∀ c ∈ s.carpinchosList, ∀ p ∈ c.paginas, (s.descriptor p).liberada = false

/-- No frame and no TLB entry in use mentions a carpincho. -/
def vacante (pid : ℤ) (s : Estado) : Bool :=
  (s.marcosList.all fun m => m.isFree || decide (m.pid ≠ pid)) &&
    s.tlbList.all fun t => !t.enUso || decide (t.pid ≠ pid)

/-- The free reaches `compactar_pagina`: the blocks of the first page are all free. -/
def compacta (cfg : Config) (pid : ℤ) (pos : ℕ) (s : Estado) : Bool :=
  match getCarpincho pid s with
  | none => false
  | some carpincho =>
    validarDireccionLogica cfg carpincho.paginas.length pos &&
      match liberarAlloc carpincho.allocs pos with
      | .ok (some (allocs, _)) =>
        match allocsDePagina cfg 0 allocs with
        | .ok deLaPagina => todosLosAllocsEstanLibres deLaPagina
        | .error _ => false
      | _ => false

/-- The call takes no page away that is in the tables. -/
def conservaPaginas (cfg : Config) (s : Estado) : Llamada → Bool
  | .memfree pid pos => !compacta cfg pid pos s
  | .memfreeAll pid => !existCarpincho pid s || vacante pid s
  | _ => true

end Definiciones

section Libro

variable {E : Entorno} {s s' : Estado}

/-- Carpinchos have different pids, their pages carry their pid and a number, and the tables
name no other pages. -/
structure Libro (s : Estado) : Prop where
  pids : (s.carpinchosList.map Carpincho.pid).Nodup
  paginas : ∀ c ∈ s.carpinchosList, ∀ p ∈ c.paginas,
    p < s.proximoPtr ∧ (s.descriptor p).carpinchoPid = c.pid ∧ (s.descriptor p).pagina ≠ 0
  tablas : TablasBien (PaginaDe s) s.marcosList s.tlbList

/-- A ledger in which the pages are numbered too. -/
structure LibroNumerado (s : Estado) : Prop extends Libro s where
  numeradas : Numeradas s

theorem Libro.huella (h : Libro s) : Huella (PaginaDe s) (fun p => (s.descriptor p).nombre) s :=
  ⟨fun _ => rfl, h.tablas⟩

def Carpincho.duenio (c : Carpincho) : ℤ × List ℕ := (c.pid, c.paginas)

theorem exists_duenio (h : s'.carpinchosList.map Carpincho.duenio =
    s.carpinchosList.map Carpincho.duenio) {c' : Carpincho} (hc' : c' ∈ s'.carpinchosList) :
    ∃ c ∈ s.carpinchosList, c.pid = c'.pid ∧ c.paginas = c'.paginas := by
  have hmem : c'.duenio ∈ s.carpinchosList.map Carpincho.duenio := h ▸ List.mem_map_of_mem hc'
  obtain ⟨c, hc, heq⟩ := List.mem_map.1 hmem
  simp only [Carpincho.duenio, Prod.mk.injEq] at heq
  exact ⟨c, hc, heq⟩

theorem duenio_of_heaps (h : s'.heaps = s.heaps) :
    s'.carpinchosList.map Carpincho.duenio = s.carpinchosList.map Carpincho.duenio := by
  have hmap := congrArg (fun x => x.1.map fun y => (y.1, y.2.1)) h
  simp only [heaps, List.map_map] at hmap
  exact hmap

theorem pids_of_duenio (h : s'.carpinchosList.map Carpincho.duenio =
    s.carpinchosList.map Carpincho.duenio) :
    s'.carpinchosList.map Carpincho.pid = s.carpinchosList.map Carpincho.pid := by
  have hmap := congrArg (List.map Prod.fst) h
  simp only [List.map_map] at hmap
  exact hmap

theorem PaginaDe.of_duenio (h : s'.carpinchosList.map Carpincho.duenio =
    s.carpinchosList.map Carpincho.duenio)
    (hnombres : ∀ p, (s'.descriptor p).nombre = (s.descriptor p).nombre) {pid pagina : ℤ}
    (hp : PaginaDe s pid pagina) : PaginaDe s' pid pagina := by
  obtain ⟨c, hc, hpid, p, hp, hname⟩ := hp
  obtain ⟨c', hc', hpid', hpaginas⟩ := exists_duenio h.symm hc
  refine ⟨c', hc', hpid'.trans hpid, p, ?_, (hnombres p).trans hname⟩
  rw [hpaginas]
  exact hp

/-- A change that keeps the carpinchos, the names of their pages, and the tables in order. -/
theorem Libro.of_duenio (h : Libro s) (hcar : s'.carpinchosList.map Carpincho.duenio =
    s.carpinchosList.map Carpincho.duenio) (hptr : s'.proximoPtr = s.proximoPtr)
    (hh : Huella (PaginaDe s) (fun p => (s.descriptor p).nombre) s') : Libro s' := by
  refine ⟨?_, ?_, hh.tablas.mono fun pid pagina => PaginaDe.of_duenio hcar hh.nombres⟩
  · rw [pids_of_duenio hcar]
    exact h.pids
  · intro c' hc' p hp
    obtain ⟨c, hc, hpid, hpaginas⟩ := exists_duenio hcar hc'
    obtain ⟨hlt, hnombre, hnumero⟩ := h.paginas c hc p (hpaginas ▸ hp)
    have hname := hh.nombres p
    simp only [Pagina.nombre, Prod.mk.injEq] at hname
    rw [hname.1, hname.2, hptr]
    exact ⟨hlt, hnombre.trans hpid, hnumero⟩

theorem Numeradas.of_duenio (h : Numeradas s) (hcar : s'.carpinchosList.map Carpincho.duenio =
    s.carpinchosList.map Carpincho.duenio)
    (hnombres : ∀ p, (s'.descriptor p).nombre = (s.descriptor p).nombre)
    (hliberada : ∀ p, (s'.descriptor p).liberada = (s.descriptor p).liberada) : Numeradas s' := by
  constructor
  · intro c' hc' k p hp
    obtain ⟨c, hc, hpid, hpaginas⟩ := exists_duenio hcar hc'
    rw [hnombres, ← hpid]
    exact h.numeros c hc k p (hpaginas ▸ hp)
  · intro c' hc' p hp
    obtain ⟨c, hc, -, hpaginas⟩ := exists_duenio hcar hc'
    rw [hliberada]
    exact h.vivas c hc p (hpaginas ▸ hp)

theorem LibroNumerado.of_duenio (h : LibroNumerado s)
    (hcar : s'.carpinchosList.map Carpincho.duenio = s.carpinchosList.map Carpincho.duenio)
    (hptr : s'.proximoPtr = s.proximoPtr)
    (hliberada : ∀ p, (s'.descriptor p).liberada = (s.descriptor p).liberada)
    (hh : Huella (PaginaDe s) (fun p => (s.descriptor p).nombre) s') : LibroNumerado s' :=
  ⟨h.toLibro.of_duenio hcar hptr hh, h.numeradas.of_duenio hcar hh.nombres hliberada⟩

theorem LibroNumerado.of_heaps (h : LibroNumerado s) (heq : s'.heaps = s.heaps)
    (hh : Huella (PaginaDe s) (fun p => (s.descriptor p).nombre) s') : LibroNumerado s' :=
  h.of_duenio (duenio_of_heaps heq) (proximoPtr_of_heaps heq) (liberada_of_heaps heq) hh

theorem Libro.paginaDe (h : Libro s) {c : Carpincho} (hc : c ∈ s.carpinchosList) {p : ℕ}
    (hp : p ∈ c.paginas) :
    PaginaDe s (s.descriptor p).nombre.1 (s.descriptor p).nombre.2 ∧
      (s.descriptor p).nombre.2 ≠ 0 := by
  obtain ⟨-, hpid, hnumero⟩ := h.paginas c hc p hp
  exact ⟨⟨c, hc, hpid.symm, p, hp, rfl⟩, hnumero⟩

theorem LibroNumerado.escribirEnPagina (h : LibroNumerado s) {c : Carpincho}
    (hc : c ∈ s.carpinchosList) {p : ℕ} (hp : p ∈ c.paginas) {buffer : List UInt8} {offset : ℕ}
    {result : ℤ}
    (hs : escribirEnPagina E p buffer offset s = .ok (result, s')) : LibroNumerado s' := by
  obtain ⟨hV, hnumero⟩ := h.paginaDe hc hp
  exact h.of_heaps (heaps_escribirEnPagina hs) (h.huella.escribirEnPagina hV hnumero hs)

theorem LibroNumerado.leerEnPagina (h : LibroNumerado s) {c : Carpincho}
    (hc : c ∈ s.carpinchosList) {p : ℕ} (hp : p ∈ c.paginas) {tamanio offset : ℕ}
    {contenido : Option (List UInt8)}
    (hs : leerEnPagina E p tamanio offset s = .ok (contenido, s')) : LibroNumerado s' := by
  obtain ⟨hV, hnumero⟩ := h.paginaDe hc hp
  exact h.of_heaps (heaps_leerEnPagina hs) (h.huella.leerEnPagina hV hnumero hs)

end Libro

section Accesos

variable {E : Entorno} {s s' : Estado} {pid : ℤ}

/-- The pages that a function gives are pages of a carpincho. -/
def DaPaginas (pagina : ℕ → Estado → Except Falla ℕ) : Prop :=
  ∀ n s p, pagina n s = .ok p → ∃ c ∈ s.carpinchosList, p ∈ c.paginas

theorem carpinchoDe_some {c : Carpincho} (h : carpinchoDe pid s = .ok c) :
    getCarpincho pid s = some c := by
  unfold carpinchoDe at h
  split at h
  · next hc =>
    cases h
    exact hc
  · cases h

theorem paginaPorNumero_daPaginas (pid : ℤ) : DaPaginas (paginaPorNumero pid) := by
  intro n s p h
  obtain ⟨c, hc, h⟩ := bind_eq_ok.1 h
  obtain ⟨o, ho, h⟩ := bind_eq_ok.1 h
  obtain ⟨-, -, ho⟩ := bind_eq_ok.1 ho
  cases o with
  | none => cases h
  | some q =>
    cases h
    refine ⟨c, (getCarpincho_pid (carpinchoDe_some hc)).2, ?_⟩
    exact List.mem_of_find?_eq_some (Except.ok.inj ho)

theorem paginaPorIndice_daPaginas (pid : ℤ) : DaPaginas (paginaPorIndice pid) := by
  intro n s p h
  obtain ⟨c, hc, h⟩ := bind_eq_ok.1 h
  split at h
  · next q hq =>
    cases h
    exact ⟨c, (getCarpincho_pid (carpinchoDe_some hc)).2, mem_of_listGet hq⟩
  · cases h

theorem LibroNumerado.escribirAcciones {pagina : ℕ → Estado → Except Falla ℕ}
    (hpag : DaPaginas pagina) {valor : List UInt8} {escrituras : List PaginaAccion}
    {sizeAnterior : ℕ} (h : LibroNumerado s)
    (hs : escribirAcciones E pagina valor escrituras sizeAnterior s = .ok s') :
    LibroNumerado s' := by
  induction escrituras generalizing s sizeAnterior with
  | nil =>
    cases hs
    exact h
  | cons escritura escrituras ih =>
    obtain ⟨page, hpage, hs⟩ := bind_eq_ok.1 hs
    obtain ⟨⟨result, s₁⟩, hescribir, hs⟩ := bind_eq_ok.1 hs
    obtain ⟨c, hc, hp⟩ := hpag _ _ _ hpage
    exact ih (h.escribirEnPagina hc hp hescribir) hs

theorem LibroNumerado.leerAcciones {pagina : ℕ → Estado → Except Falla ℕ}
    (hpag : DaPaginas pagina) {buffer : List UInt8} {lecturas : List PaginaAccion}
    {sizeAnterior : ℕ} {r : List UInt8} (h : LibroNumerado s)
    (hs : leerAcciones E pagina lecturas sizeAnterior buffer s = .ok (r, s')) :
    LibroNumerado s' := by
  induction lecturas generalizing s sizeAnterior buffer with
  | nil =>
    cases hs
    exact h
  | cons lectura lecturas ih =>
    obtain ⟨page, hpage, hs⟩ := bind_eq_ok.1 hs
    obtain ⟨⟨resultadoParcial, s₁⟩, hleer, hs⟩ := bind_eq_ok.1 hs
    obtain ⟨c, hc, hp⟩ := hpag _ _ _ hpage
    cases resultadoParcial with
    | none => cases hs
    | some bytes => exact ih (h.leerEnPagina hc hp hleer) hs

theorem LibroNumerado.persistirMetadataHeap {unAlloc : Alloc} (h : LibroNumerado s)
    (hs : persistirMetadataHeap E pid unAlloc s = .ok s') : LibroNumerado s' := by
  obtain ⟨carpincho, -, hs⟩ := bind_eq_ok.1 hs
  obtain ⟨indice, -, hs⟩ := bind_eq_ok.1 hs
  exact h.escribirAcciones (paginaPorNumero_daPaginas pid) hs

theorem LibroNumerado.setAllocs (h : LibroNumerado s) (allocs : List Alloc) :
    LibroNumerado (setAllocs pid allocs s) := by
  exact h.of_duenio (map_setCarpincho (fun _ => by rfl) pid s) rfl (fun _ => rfl)
    ⟨fun _ => rfl, h.tablas⟩

end Accesos

section Creacion

variable {E : Entorno} {s s' : Estado} {pid : ℤ} {p : ℕ}

theorem nodup_pids_append (h : (s.carpinchosList.map Carpincho.pid).Nodup) {c : Carpincho}
    (hno : existCarpincho c.pid s = false) :
    ((s.carpinchosList ++ [c]).map Carpincho.pid).Nodup := by
  simp only [List.map_append, List.map_cons, List.map_nil]
  apply List.Nodup.append h (List.nodup_singleton _)
  intro pid' hmem hpid
  obtain rfl := List.mem_singleton.1 hpid
  obtain ⟨d, hd, heq⟩ := List.mem_map.1 hmem
  simp only [existCarpincho, List.any_eq_false] at hno
  exact hno d hd (decide_eq_true heq)

theorem Libro.createCarpincho (h : Libro s) {c : Carpincho} (hno : existCarpincho c.pid s = false)
    (hvacio : c.paginas = []) : Libro { s with carpinchosList := s.carpinchosList ++ [c] } := by
  refine ⟨nodup_pids_append h.pids hno, ?_, h.tablas.mono ?_⟩
  · intro d hd q hq
    rcases List.mem_append.1 hd with hd | hd
    · exact h.paginas d hd q hq
    · obtain rfl := List.mem_singleton.1 hd
      rw [hvacio] at hq
      cases hq
  · rintro pid' pagina ⟨d, hd, hrest⟩
    exact ⟨d, List.mem_append_left _ hd, hrest⟩

theorem LibroNumerado.createCarpincho (h : LibroNumerado s) (pid : ℤ) :
    LibroNumerado (createCarpincho pid s) := by
  unfold Memoria.createCarpincho
  split
  · exact h
  · next hno =>
    refine ⟨h.toLibro.createCarpincho (Bool.eq_false_iff.2 hno) rfl, ?_, ?_⟩
    · intro d hd k p hp
      rcases List.mem_append.1 hd with hd | hd
      · exact h.numeradas.numeros d hd k p hp
      · obtain rfl := List.mem_singleton.1 hd
        cases hp
    · intro d hd p hp
      rcases List.mem_append.1 hd with hd | hd
      · exact h.numeradas.vivas d hd p hp
      · obtain rfl := List.mem_singleton.1 hd
        cases hp

theorem duenio_conPagina {c : Carpincho} (h : s'.heaps = (conPagina c s).heaps) :
    s'.carpinchosList.map Carpincho.duenio = s.carpinchosList.map fun d =>
      (d.pid, if d.pid = c.pid then d.paginas ++ [s.proximoPtr] else d.paginas) := by
  rw [duenio_of_heaps h]
  simp only [conPagina, conDescriptor, setCarpincho, setPagina, List.map_map]
  refine List.map_congr_left fun d _ => ?_
  simp only [Function.comp_apply, Carpincho.duenio]
  split <;> rfl

theorem pids_conPagina {c : Carpincho} (h : s'.heaps = (conPagina c s).heaps) :
    s'.carpinchosList.map Carpincho.pid = s.carpinchosList.map Carpincho.pid := by
  have hmap := congrArg (List.map Prod.fst) (duenio_conPagina h)
  simp only [List.map_map] at hmap
  exact hmap

theorem exists_of_conPagina {c : Carpincho} (h : s'.heaps = (conPagina c s).heaps)
    {d' : Carpincho} (hd' : d' ∈ s'.carpinchosList) :
    ∃ d ∈ s.carpinchosList, d.pid = d'.pid ∧
      (if d.pid = c.pid then d.paginas ++ [s.proximoPtr] else d.paginas) = d'.paginas := by
  have hmem : d'.duenio ∈ s'.carpinchosList.map Carpincho.duenio := List.mem_map_of_mem hd'
  rw [duenio_conPagina h] at hmem
  obtain ⟨d, hd, heq⟩ := List.mem_map.1 hmem
  simp only [Carpincho.duenio, Prod.mk.injEq] at heq
  exact ⟨d, hd, heq⟩

theorem exists_conPagina {c : Carpincho} (h : s'.heaps = (conPagina c s).heaps)
    {d : Carpincho} (hd : d ∈ s.carpinchosList) :
    ∃ d' ∈ s'.carpinchosList, d'.pid = d.pid ∧
      d'.paginas = if d.pid = c.pid then d.paginas ++ [s.proximoPtr] else d.paginas := by
  have hmem := List.mem_map_of_mem (f := fun d : Carpincho => (d.pid,
    if d.pid = c.pid then d.paginas ++ [s.proximoPtr] else d.paginas)) hd
  rw [← duenio_conPagina h] at hmem
  obtain ⟨d', hd', heq⟩ := List.mem_map.1 hmem
  simp only [Carpincho.duenio, Prod.mk.injEq] at heq
  exact ⟨d', hd', heq⟩

def nombresCon (c : Carpincho) (s : Estado) (q : ℕ) : ℤ × ℤ :=
  ((conDescriptor c s).descriptor q).nombre

theorem nombresCon_nuevo (c : Carpincho) :
    nombresCon c s s.proximoPtr = (c.pid, ((c.paginas.length + 1 : ℕ) : ℤ)) := by
  simp [nombresCon, conDescriptor, setPagina, paginaNueva, Pagina.nombre]

theorem nombresCon_viejo (c : Carpincho) {q : ℕ} (hq : q < s.proximoPtr) :
    nombresCon c s q = (s.descriptor q).nombre := by
  simp [nombresCon, conDescriptor, setPagina, Function.update_of_ne hq.ne]

theorem Libro.huella_createPagina (h : Libro s) (hs : createPagina E pid s = .ok (p, s')) :
    ∃ c ∈ s.carpinchosList, s'.heaps = (conPagina c s).heaps ∧
      Huella (fun pid' pagina => PaginaDe s pid' pagina ∨
        pid' = c.pid ∧ pagina = (c.paginas.length + 1 : ℕ)) (nombresCon c s) s' := by
  obtain ⟨c, hc, rfl, hheaps⟩ := heaps_createPagina hs
  refine ⟨c, (getCarpincho_pid hc).2, hheaps, ?_⟩
  refine Huella.createPagina hc ?_ (Or.inr ⟨rfl, rfl⟩) hs
  exact ⟨fun _ => rfl, h.tablas.mono fun _ _ => Or.inl⟩

theorem mem_paginas_con {c d : Carpincho} {q : ℕ}
    (hq : q ∈ if d.pid = c.pid then d.paginas ++ [s.proximoPtr] else d.paginas) :
    q ∈ d.paginas ∨ d.pid = c.pid ∧ q = s.proximoPtr := by
  split at hq
  · next heq => simpa [heq] using hq
  · exact Or.inl hq

theorem Libro.createPagina (h : Libro s) (hs : createPagina E pid s = .ok (p, s')) : Libro s' := by
  obtain ⟨c, hc, hheaps, hh⟩ := h.huella_createPagina hs
  have hptr : s'.proximoPtr = s.proximoPtr + 1 := proximoPtr_of_heaps hheaps
  refine ⟨?_, ?_, hh.tablas.mono ?_⟩
  · rw [pids_conPagina hheaps]
    exact h.pids
  · intro d' hd' q hq
    obtain ⟨d, hd, hpid, hpaginas⟩ := exists_of_conPagina hheaps hd'
    have hname := hh.nombres q
    rw [← hpaginas] at hq
    rcases mem_paginas_con hq with hq | ⟨hdc, rfl⟩
    · obtain ⟨hlt, hnombre, hnumero⟩ := h.paginas d hd q hq
      rw [nombresCon_viejo c hlt] at hname
      simp only [Pagina.nombre, Prod.mk.injEq] at hname
      rw [hname.1, hname.2, hptr]
      exact ⟨by omega, hnombre.trans hpid, hnumero⟩
    · rw [nombresCon_nuevo] at hname
      simp only [Pagina.nombre, Prod.mk.injEq] at hname
      rw [hname.1, hname.2, hptr]
      refine ⟨by omega, hdc.symm.trans hpid, ?_⟩
      exact Int.natCast_ne_zero.2 (Nat.succ_ne_zero _)
  · rintro pid' pagina (⟨d, hd, hpid, q, hq, hname⟩ | ⟨rfl, rfl⟩)
    · obtain ⟨d', hd', hpid', hpaginas⟩ := exists_conPagina hheaps hd
      refine ⟨d', hd', hpid'.trans hpid, q, ?_, ?_⟩
      · rw [hpaginas]
        split
        · exact List.mem_append_left _ hq
        · exact hq
      · rw [hh.nombres q, nombresCon_viejo c (h.paginas d hd q hq).1]
        exact hname
    · obtain ⟨d', hd', hpid', hpaginas⟩ := exists_conPagina hheaps hc
      refine ⟨d', hd', hpid', s.proximoPtr, ?_, (hh.nombres _).trans (nombresCon_nuevo c)⟩
      rw [hpaginas, if_pos rfl]
      exact List.mem_append_right _ List.mem_cons_self

theorem Libro.eq_of_pid (h : Libro s) {c d : Carpincho} (hc : c ∈ s.carpinchosList)
    (hd : d ∈ s.carpinchosList) (hpid : c.pid = d.pid) : c = d :=
  List.inj_on_of_nodup_map h.pids hc hd hpid

theorem LibroNumerado.createPagina (h : LibroNumerado s)
    (hs : createPagina E pid s = .ok (p, s')) : LibroNumerado s' := by
  obtain ⟨c, hc, hheaps, hh⟩ := h.toLibro.huella_createPagina hs
  refine ⟨h.toLibro.createPagina hs, ?_, ?_⟩
  · intro d' hd' k q hq
    obtain ⟨d, hd, hpid, hpaginas⟩ := exists_of_conPagina hheaps hd'
    rw [← hpaginas] at hq
    have hviejo : d.paginas[k]? = some q →
        (s'.descriptor q).nombre = (d'.pid, ((k + 1 : ℕ) : ℤ)) := by
      intro hk
      obtain ⟨hlt, -⟩ := h.paginas d hd q (List.mem_of_getElem? hk)
      rw [hh.nombres, nombresCon_viejo c hlt, ← hpid]
      exact h.numeradas.numeros d hd k q hk
    by_cases hdc : d.pid = c.pid
    · obtain rfl := h.eq_of_pid hd hc hdc
      rw [if_pos rfl] at hq
      rcases lt_trichotomy k d.paginas.length with hk | rfl | hk
      · rw [List.getElem?_append_left hk] at hq
        exact hviejo hq
      · rw [List.getElem?_concat_length, Option.some.injEq] at hq
        subst hq
        rw [hh.nombres, nombresCon_nuevo, hpid]
      · rw [List.getElem?_eq_none (by simpa using hk)] at hq
        cases hq
    · rw [if_neg hdc] at hq
      exact hviejo hq
  · intro d' hd' q hq
    obtain ⟨d, hd, -, hpaginas⟩ := exists_of_conPagina hheaps hd'
    have hlib : (s'.descriptor q).liberada = ((conPagina c s).descriptor q).liberada :=
      liberada_of_heaps hheaps q
    rw [hlib]
    rw [← hpaginas] at hq
    rcases mem_paginas_con hq with hq | ⟨-, rfl⟩
    · have hlt := (h.paginas d hd q hq).1
      have hvieja := h.numeradas.vivas d hd q hq
      simpa [conPagina, conDescriptor, setCarpincho, setPagina, Function.update_of_ne hlt.ne] using
        hvieja
    · simp [conPagina, conDescriptor, setCarpincho, setPagina, paginaNueva]

theorem LibroNumerado.crearPaginas {n : ℕ} (h : LibroNumerado s)
    (hs : crearPaginas E pid n s = .ok s') : LibroNumerado s' := by
  induction n generalizing s with
  | zero =>
    cases hs
    exact h
  | succ n ih =>
    obtain ⟨⟨p, s₁⟩, hcrear, hs⟩ := bind_eq_ok.1 hs
    exact ih (h.createPagina hcrear) hs

end Creacion

section Llamadas

variable {E : Entorno} {s s' : Estado} {pid : ℤ}

theorem LibroNumerado.planificarMemalloc {size : ℕ} {r : CheckAllocRespuesta × Estado}
    (h : LibroNumerado s) (hs : planificarMemalloc E pid size s = .ok r) : LibroNumerado r.2 := by
  obtain ⟨o, -, hplan⟩ := consulta_of_planifica hs
  cases o with
  | none =>
    rw [hplan.1]
    exact h
  | some cantPag =>
    have hpreguntado : LibroNumerado (preguntado pid cantPag s) :=
      h.of_duenio rfl rfl (fun _ => rfl) ⟨fun _ => rfl, h.tablas⟩
    rw [Planifica] at hplan
    rw [hplan]
    split
    · exact hpreguntado.createCarpincho pid
    · exact hpreguntado

theorem LibroNumerado.asignarEnPagina {size d : ℕ} (h : LibroNumerado s)
    (hs : memallocAsignarEnPaginaConEspacio pid size s = .ok (d, s')) : LibroNumerado s' := by
  obtain ⟨carpincho, -, hs⟩ := bind_eq_ok.1 hs
  cases hs
  exact h.setAllocs _

theorem LibroNumerado.asignarMemalloc {size : ℕ} {checkStatus : CheckAllocRespuesta}
    {direccion : Option ℕ} (h : LibroNumerado s)
    (hs : asignarMemalloc E pid size checkStatus s = .ok (direccion, s')) : LibroNumerado s' := by
  cases checkStatus with
  | allocSinEspacio =>
    cases hs
    exact h
  | allocHeap =>
    obtain ⟨⟨d, s₁⟩, hheap, hs⟩ := bind_eq_ok.1 hs
    cases hs
    obtain ⟨carpincho, -, hheap⟩ := bind_eq_ok.1 hheap
    obtain ⟨asignado, -, hheap⟩ := bind_eq_ok.1 hheap
    dsimp only at hheap
    split at hheap
    · cases hheap
      exact h.setAllocs _
    · obtain ⟨s₂, hpersistir, hheap⟩ := bind_eq_ok.1 hheap
      cases hheap
      exact (h.setAllocs _).persistirMetadataHeap hpersistir
  | allocPagina =>
    obtain ⟨⟨d, s₁⟩, hpagina, hs⟩ := bind_eq_ok.1 hs
    cases hs
    exact h.asignarEnPagina hpagina
  | allocSolicitarPagina =>
    obtain ⟨⟨d, s₁⟩, hnuevas, hs⟩ := bind_eq_ok.1 hs
    cases hs
    obtain ⟨carpincho, -, hnuevas⟩ := bind_eq_ok.1 hnuevas
    obtain ⟨espacioOcupado, -, hnuevas⟩ := bind_eq_ok.1 hnuevas
    obtain ⟨espacioLibre, -, hnuevas⟩ := bind_eq_ok.1 hnuevas
    obtain ⟨cantPag, -, hnuevas⟩ := bind_eq_ok.1 hnuevas
    obtain ⟨s₂, hcrear, hnuevas⟩ := bind_eq_ok.1 hnuevas
    obtain ⟨s₃, hcrear, hok⟩ := bind_eq_ok.1 hcrear
    obtain ⟨-, -, hok⟩ := bind_eq_ok.1 hok
    cases hok
    exact (h.crearPaginas hcrear).asignarEnPagina hnuevas

theorem LibroNumerado.memoryMemalloc {size : ℕ} {r : StatusMemoryOp × Option ℕ}
    (h : LibroNumerado s) (hs : memoryMemalloc E pid size s = .ok (r, s')) : LibroNumerado s' := by
  obtain ⟨⟨checkStatus, s₁⟩, hplan, hs⟩ := bind_eq_ok.1 hs
  obtain ⟨⟨direccion, s₂⟩, hasignar, hs⟩ := bind_eq_ok.1 hs
  have h₂ := (h.planificarMemalloc hplan).asignarMemalloc hasignar
  cases direccion with
  | none =>
    cases hs
    exact h₂
  | some direccion =>
    obtain ⟨s₃, hpersistir, hs⟩ := bind_eq_ok.1 hs
    cases hs
    obtain ⟨carpincho, -, hpersistir⟩ := bind_eq_ok.1 hpersistir
    split at hpersistir
    · cases hpersistir
    · exact h₂.persistirMetadataHeap hpersistir

theorem LibroNumerado.memoryMemwrite {pos : ℕ} {valor : List UInt8} {status : StatusMemoryOp}
    (h : LibroNumerado s) (hs : memoryMemwrite E pid pos valor s = .ok (status, s')) :
    LibroNumerado s' := by
  unfold Memoria.memoryMemwrite at hs
  split at hs
  · cases hs
    exact h
  · split at hs
    · split at hs
      · cases hs
      · dsimp only at hs
        split at hs
        · cases hs
          exact h
        · obtain ⟨-, -, hs⟩ := bind_eq_ok.1 hs
          obtain ⟨s₁, hescribir, hs⟩ := bind_eq_ok.1 hs
          cases hs
          exact h.escribirAcciones (paginaPorIndice_daPaginas pid) hescribir
    · cases hs
      exact h

theorem LibroNumerado.memoryMemread {pos : ℕ} {buffer : List UInt8}
    {r : StatusMemoryOp × List UInt8}
    (h : LibroNumerado s) (hs : memoryMemread E pid pos buffer s = .ok (r, s')) :
    LibroNumerado s' := by
  unfold Memoria.memoryMemread at hs
  split at hs
  · cases hs
    exact h
  · split at hs
    · obtain ⟨-, -, hs⟩ := bind_eq_ok.1 hs
      obtain ⟨⟨leido, s₁⟩, hleer, hs⟩ := bind_eq_ok.1 hs
      cases hs
      exact h.leerAcciones (paginaPorIndice_daPaginas pid) hleer
    · cases hs
      exact h

/-- The steps of a free: nothing happens, or the block is freed, its metadata is written and
the pages are compacted. -/
theorem memoryMemfree_cases {pos : ℕ} {status : StatusMemoryOp}
    (hs : memoryMemfree E pid pos s = .ok (status, s')) :
    (status = .direccionInvalida ∧ s' = s ∧ compacta E.config pid pos s = false) ∨
    ∃ c allocs alloc s₁, status = .exito ∧ getCarpincho pid s = some c ∧
      validarDireccionLogica E.config c.paginas.length pos = true ∧
      liberarAlloc c.allocs pos = .ok (some (allocs, alloc)) ∧
      persistirMetadataHeap E pid alloc (setAllocs pid allocs s) = .ok s₁ ∧
      compactarMientras E pid (allocs.length + 1) s₁ = .ok s' := by
  unfold memoryMemfree at hs
  split at hs
  · next hc =>
    cases hs
    exact Or.inl ⟨rfl, rfl, by simp [compacta, hc]⟩
  · next c hc =>
    split at hs
    · next hvalida =>
      obtain ⟨o, hliberar, hs⟩ := bind_eq_ok.1 hs
      cases o with
      | none =>
        cases hs
        exact Or.inl ⟨rfl, rfl, by simp [compacta, hc, hliberar]⟩
      | some r =>
        obtain ⟨allocs, alloc⟩ := r
        obtain ⟨s₁, hpersistir, hs⟩ := bind_eq_ok.1 hs
        obtain ⟨s₂, hcompactar, hs⟩ := bind_eq_ok.1 hs
        cases hs
        exact Or.inr ⟨c, allocs, alloc, s₁, rfl, hc, hvalida, hliberar, hpersistir, hcompactar⟩
    · next hvalida =>
      cases hs
      exact Or.inl ⟨rfl, rfl, by simp [compacta, hc, hvalida]⟩

theorem getCarpincho_persistir {c : Carpincho} {allocs : List Alloc} {unAlloc : Alloc}
    (hc : getCarpincho pid s = some c)
    (hs : persistirMetadataHeap E pid unAlloc (setAllocs pid allocs s) = .ok s') :
    ∃ d, getCarpincho pid s' = some d ∧ d.paginas = c.paginas ∧ d.allocs = allocs := by
  obtain ⟨d, hd, hheap⟩ := getCarpincho_some_of_heaps (heaps_persistirMetadataHeap hs)
    (getCarpincho_setAllocs hc allocs)
  simp only [Carpincho.heap, Prod.mk.injEq] at hheap
  exact ⟨d, hd, hheap.2⟩

/-- `compactar` looks at the blocks of the first page. -/
theorem compactar_resultado {c : Carpincho} {resultado : Bool} (hc : getCarpincho pid s = some c)
    (hs : compactar E pid s = .ok (resultado, s')) :
    ∃ l, allocsDePagina E.config 0 c.allocs = .ok l ∧ todosLosAllocsEstanLibres l = resultado := by
  obtain ⟨c', hc', hs⟩ := bind_eq_ok.1 hs
  obtain rfl := Option.some.inj (hc.symm.trans (carpinchoDe_some hc'))
  split at hs
  · cases hs
  · obtain ⟨l, hl, hs⟩ := bind_eq_ok.1 hs
    refine ⟨l, hl, ?_⟩
    split at hs
    · next hlibres =>
      obtain ⟨allocs, -, hs⟩ := bind_eq_ok.1 hs
      obtain ⟨s₁, -, hs⟩ := bind_eq_ok.1 hs
      cases hs
      exact hlibres
    · next hlibres =>
      cases hs
      exact Bool.eq_false_iff.2 hlibres

theorem compactar_falso (hs : compactar E pid s = .ok (false, s')) : s' = s := by
  obtain ⟨c', hc', hs⟩ := bind_eq_ok.1 hs
  split at hs
  · cases hs
  · obtain ⟨l, hl, hs⟩ := bind_eq_ok.1 hs
    split at hs
    · obtain ⟨allocs, -, hs⟩ := bind_eq_ok.1 hs
      obtain ⟨s₁, -, hs⟩ := bind_eq_ok.1 hs
      cases hs
    · cases hs
      rfl

/-- The first look at the first page decides whether a free compacts. -/
theorem compacta_eq {pos : ℕ} {c d : Carpincho} {allocs : List Alloc} {alloc : Alloc}
    {resultado : Bool} {s₁ : Estado} (hc : getCarpincho pid s = some c)
    (hvalida : validarDireccionLogica E.config c.paginas.length pos = true)
    (hliberar : liberarAlloc c.allocs pos = .ok (some (allocs, alloc)))
    (hd : getCarpincho pid s₁ = some d) (hallocs : d.allocs = allocs)
    (hs : compactar E pid s₁ = .ok (resultado, s')) :
    compacta E.config pid pos s = resultado := by
  obtain ⟨l, hl, hlibres⟩ := compactar_resultado hd hs
  rw [hallocs] at hl
  simp [compacta, hc, hvalida, hliberar, hl, hlibres]

theorem compactarMientras_falso {fuel : ℕ} {s₁ : Estado}
    (hcompactar : compactar E pid s = .ok (false, s₁))
    (hs : compactarMientras E pid (fuel + 1) s = .ok s') : s' = s := by
  rw [compactarMientras, hcompactar] at hs
  cases hs
  exact compactar_falso hcompactar

theorem LibroNumerado.memoryMemfree {pos : ℕ} {status : StatusMemoryOp} (h : LibroNumerado s)
    (hno : compacta E.config pid pos s = false)
    (hs : memoryMemfree E pid pos s = .ok (status, s')) : LibroNumerado s' := by
  rcases memoryMemfree_cases hs with ⟨-, rfl, -⟩ |
    ⟨c, allocs, alloc, s₁, -, hc, hvalida, hliberar, hpersistir, hmientras⟩
  · exact h
  · obtain ⟨d, hd, -, hallocs⟩ := getCarpincho_persistir hc hpersistir
    obtain ⟨⟨resultado, s₂⟩, hcompactar, -⟩ := bind_eq_ok.1 hmientras
    obtain rfl : false = resultado :=
      hno.symm.trans (compacta_eq hc hvalida hliberar hd hallocs hcompactar)
    rw [compactarMientras_falso hcompactar hmientras]
    exact (h.setAllocs allocs).persistirMetadataHeap hpersistir

end Llamadas

section Finalizacion

variable {E : Entorno} {s s' : Estado} {pid : ℤ}

theorem getElem?_ultimo {l : List Carpincho} {c : Carpincho} (hc : c ∈ l) (hpid : c.pid = pid) :
    ∃ d, l[l.length - 1 - (l.reverse.findIdx fun c => c.pid = pid)]? = some d ∧ d.pid = pid := by
  have hlt : (l.reverse.findIdx fun c => c.pid = pid) < l.reverse.length :=
    List.findIdx_lt_length_of_exists ⟨c, List.mem_reverse.2 hc, decide_eq_true hpid⟩
  refine ⟨_, ?_, of_decide_eq_true (List.findIdx_getElem (w := hlt))⟩
  rw [List.getElem_reverse, List.getElem?_eq_getElem]

theorem mem_eraseIdx_pid {l : List Carpincho} (hnodup : (l.map Carpincho.pid).Nodup) {i : ℕ}
    {d : Carpincho} (hd : l[i]? = some d) {c : Carpincho} :
    c ∈ l.eraseIdx i ↔ c ∈ l ∧ c.pid ≠ d.pid := by
  rw [List.mem_eraseIdx_iff_getElem?]
  constructor
  · rintro ⟨j, hj, hc⟩
    refine ⟨List.mem_of_getElem? hc, fun hpid => hj ?_⟩
    have hpids : (l.map Carpincho.pid)[j]? = (l.map Carpincho.pid)[i]? := by
      rw [List.getElem?_map, List.getElem?_map, hc, hd, Option.map_some, Option.map_some, hpid]
    have hlt : j < (l.map Carpincho.pid).length := by
      rw [List.length_map]
      exact (List.getElem?_eq_some_iff.1 hc).1
    exact (List.getElem?_inj hlt hnodup).1 hpids
  · rintro ⟨hc, hpid⟩
    obtain ⟨j, hj⟩ := List.mem_iff_getElem?.1 hc
    refine ⟨j, ?_, hj⟩
    rintro rfl
    rw [hd] at hj
    exact hpid (congrArg Carpincho.pid (Option.some.inj hj)).symm

/-- The descriptors of a closed carpincho are marked, and nothing else changes. -/
structure Cerrado (ps : List ℕ) (s s' : Estado) : Prop where
  tablas : s'.tablas = s.tablas
  carpinchos : s'.carpinchosList = s.carpinchosList
  proximoPtr : s'.proximoPtr = s.proximoPtr
  liberada : ∀ q, q ∉ ps → (s'.descriptor q).liberada = (s.descriptor q).liberada

theorem closeCarpincho_cerrado {c : Carpincho} (hs : closeCarpincho c s = .ok s') :
    Cerrado c.paginas s s' := by
  have hmarcar : ∀ (ps : List ℕ) (s : Estado), Cerrado ps s
      (ps.foldl (fun s p => s.setPagina p fun q => { q with liberada := true }) s) := by
    intro ps
    induction ps with
    | nil => exact fun s => ⟨rfl, rfl, rfl, fun _ _ => rfl⟩
    | cons p ps ih =>
      intro s
      have h := ih (s.setPagina p fun q => { q with liberada := true })
      refine ⟨h.tablas.trans (tablas_setPagina fun _ => rfl), h.carpinchos, h.proximoPtr, ?_⟩
      intro q hq
      have hne : q ≠ p := fun heq => hq (heq ▸ List.mem_cons_self)
      have hq : q ∉ ps := fun hmem => hq (List.mem_cons_of_mem _ hmem)
      rw [List.foldl_cons, h.liberada q hq]
      simp [setPagina, Function.update_of_ne hne]
  obtain ⟨-, -, hs⟩ := bind_eq_ok.1 hs
  cases hs
  exact hmarcar c.paginas s

theorem memoryMemfreeAll_exito (hs : memoryMemfreeAll pid s = .ok (.exito, s')) :
    ∃ c i, getCarpincho pid s = some c ∧ s.carpinchosList[i]?.map Carpincho.pid = some pid ∧
      Cerrado c.paginas { s with carpinchosList := s.carpinchosList.eraseIdx i } s' := by
  unfold memoryMemfreeAll at hs
  split at hs
  · cases hs
  · next c hc =>
    obtain ⟨hpid, hmem⟩ := getCarpincho_pid hc
    obtain ⟨s₁, hclose, hs⟩ := bind_eq_ok.1 hs
    obtain ⟨d, hd, hdpid⟩ := getElem?_ultimo hmem hpid
    cases hs
    refine ⟨c, _, hc, ?_, closeCarpincho_cerrado hclose⟩
    rw [hd, Option.map_some, hdpid]

theorem vacante_of_tablas (h : s'.tablas = s.tablas) (pid : ℤ) :
    vacante pid s' = vacante pid s := by
  simp only [Estado.tablas, Prod.mk.injEq] at h
  simp only [vacante, h]

theorem existCarpincho_of_mem {c : Carpincho} (hc : c ∈ s.carpinchosList) :
    existCarpincho c.pid s = true :=
  List.any_eq_true.2 ⟨c, hc, decide_eq_true rfl⟩

theorem vacante_marco (h : vacante pid s = true) {m : Marco} (hm : m ∈ s.marcosList)
    (hfree : m.isFree = false) : m.pid ≠ pid := by
  rw [vacante, Bool.and_eq_true] at h
  simpa [hfree] using List.all_eq_true.1 h.1 m hm

theorem LibroNumerado.memoryMemfreeAll {status : StatusMemoryOp} (h : LibroNumerado s)
    (hconserva : conservaPaginas E.config s (.memfreeAll pid) = true)
    (hs : memoryMemfreeAll pid s = .ok (status, s')) : LibroNumerado s' := by
  cases status with
  | exito =>
    obtain ⟨c, i, hc, hi, hcerrado⟩ := memoryMemfreeAll_exito hs
    obtain ⟨rfl, hcmem⟩ := getCarpincho_pid hc
    have hvacante : vacante c.pid s = true := by
      simpa [conservaPaginas, existCarpincho_of_mem hcmem] using hconserva
    obtain ⟨e, he, hpid⟩ := Option.map_eq_some_iff.1 hi
    have hmem : ∀ d, d ∈ s'.carpinchosList ↔ d ∈ s.carpinchosList ∧ d.pid ≠ c.pid := by
      intro d
      rw [hcerrado.carpinchos, mem_eraseIdx_pid h.pids he, hpid]
    have hh : Huella (PaginaDe s) (fun p => (s.descriptor p).nombre) s' :=
      h.huella.of_tablas hcerrado.tablas
    refine ⟨⟨?_, ?_, ?_⟩, ?_, ?_⟩
    · rw [hcerrado.carpinchos]
      exact h.pids.sublist ((List.eraseIdx_sublist _ _).map _)
    · intro d hd p hp
      have hname := hh.nombres p
      simp only [Pagina.nombre, Prod.mk.injEq] at hname
      rw [hname.1, hname.2, hcerrado.proximoPtr]
      exact h.paginas d ((hmem d).1 hd).1 p hp
    · refine { hh.tablas with ocupados := fun m hm hfree => ?_ }
      have hmarcos : s'.marcosList = s.marcosList := congrArg Prod.fst hcerrado.tablas
      obtain ⟨d, hd, hdpid, p, hp, hname⟩ := hh.tablas.ocupados m hm hfree
      have hne := vacante_marco hvacante (hmarcos ▸ hm) hfree
      exact ⟨d, (hmem d).2 ⟨hd, hdpid ▸ hne⟩, hdpid, p, hp, (hh.nombres p).trans hname⟩
    · intro d hd k p hp
      rw [hh.nombres]
      exact h.numeradas.numeros d ((hmem d).1 hd).1 k p hp
    · intro d hd p hp
      obtain ⟨hd, hne⟩ := (hmem d).1 hd
      -- A descriptor carries the pid of its carpincho, so no other carpincho has it.
      have hajena : p ∉ c.paginas := by
        intro hpc
        exact hne ((h.paginas d hd p hp).2.1.symm.trans (h.paginas c hcmem p hpc).2.1)
      rw [hcerrado.liberada p hajena]
      exact h.numeradas.vivas d hd p hp
  | sinEspacio =>
    unfold Memoria.memoryMemfreeAll at hs
    split at hs
    · cases hs
    · obtain ⟨s₁, -, hs⟩ := bind_eq_ok.1 hs
      cases hs
  | direccionInvalida =>
    unfold Memoria.memoryMemfreeAll at hs
    split at hs
    · cases hs
      exact h
    · obtain ⟨s₁, -, hs⟩ := bind_eq_ok.1 hs
      cases hs

/-- Every call that takes no page of the tables away keeps the ledger. -/
theorem LibroNumerado.llamar {op : Llamada} {r : Respuesta} (h : LibroNumerado s)
    (hconserva : conservaPaginas E.config s op = true) (hs : llamar E op s = .ok (r, s')) :
    LibroNumerado s' := by
  cases op with
  | memalloc pid size =>
    obtain ⟨⟨r, s₁⟩, hs, hok⟩ := bind_eq_ok.1 hs
    cases hok
    exact h.memoryMemalloc hs
  | memwrite pid pos valor =>
    obtain ⟨⟨r, s₁⟩, hs, hok⟩ := bind_eq_ok.1 hs
    cases hok
    exact h.memoryMemwrite hs
  | memread pid pos buffer =>
    obtain ⟨⟨r, s₁⟩, hs, hok⟩ := bind_eq_ok.1 hs
    cases hok
    exact h.memoryMemread hs
  | memfree pid pos =>
    obtain ⟨⟨r, s₁⟩, hs, hok⟩ := bind_eq_ok.1 hs
    cases hok
    exact h.memoryMemfree (by simpa [conservaPaginas] using hconserva) hs
  | memfreeAll pid =>
    obtain ⟨⟨r, s₁⟩, hs, hok⟩ := bind_eq_ok.1 hs
    cases hok
    exact h.memoryMemfreeAll hconserva hs

theorem libro_inicial (cfg : Config) (basura : ℕ → Pagina) :
    LibroNumerado (inicializarMemoria cfg basura) := by
  have hmarco : ∀ m ∈ createMarcos cfg, m.isFree = true ∧ m.pid = 0 ∧ m.pagina = 0 := by
    intro m hm
    obtain ⟨i, -, rfl⟩ := List.mem_map.1 hm
    exact ⟨rfl, rfl, rfl⟩
  have htlb : ∀ t ∈ createTlb cfg, t.pid = 0 ∧ t.pagina = 0 ∧ t.marco = -1 := by
    intro t ht
    obtain ⟨i, -, rfl⟩ := List.mem_map.1 ht
    exact ⟨rfl, rfl, rfl⟩
  have hnadie : ∀ c, c ∉ (inicializarMemoria cfg basura).carpinchosList :=
    fun _ => List.not_mem_nil
  refine ⟨⟨List.nodup_nil, fun c hc => absurd hc (hnadie c), ?_⟩,
    fun c hc => absurd hc (hnadie c), fun c hc => absurd hc (hnadie c)⟩
  constructor
  · intro i m hm
    simp only [inicializarMemoria, createMarcos, List.getElem?_map] at hm
    obtain ⟨j, hj, rfl⟩ := Option.map_eq_some_iff.1 hm
    obtain ⟨hlt, rfl⟩ := List.getElem?_eq_some_iff.1 hj
    simp
  · intro m hm hfree
    rw [(hmarco m hm).1] at hfree
    cases hfree
  · intro m hm _
    exact (hmarco m hm).2
  · intro t ht _
    exact ⟨(htlb t ht).1, (htlb t ht).2.1⟩
  · intro t ht hne
    exact absurd (htlb t ht).2.2 hne
  · intro t ht _ _ hne
    exact absurd (htlb t ht).2.2 hne

end Finalizacion

end Carpinchos.Memoria
