import Carpinchos.Memoria.Libro

/-!
# The steps that a call is made of

A call on a carpincho sends messages, may create the carpincho, writes its list of allocs,
creates pages, reaches the bytes of its pages and takes pages out of it. What every such step
keeps a call keeps. Here the names of the pages are followed so: a page keeps the name that it
was created with, and a page that has been freed stays freed.
-/

namespace Carpinchos.Memoria

open Outcome Estado Runs Relation

variable {E : Entorno} {s s' s'' : Estado} {pid q : ℤ} {c : Carpincho}

section Pasos

inductive Paso (E : Entorno) (pid : ℤ) : Estado → Estado → Prop
  | mensaje {s : Estado} (m : Mensaje) : Paso E pid s { s with mensajes := s.mensajes ++ [m] }
  | carpincho {s : Estado} : Paso E pid s (createCarpincho pid s)
  | allocs {s : Estado} (allocs : List Alloc) : Paso E pid s (setAllocs pid allocs s)
  | pagina {s s' : Estado} {p : ℕ} : createPagina E pid s = .ok (p, s') → Paso E pid s s'
  | escritura {s s' : Estado} {c : Carpincho} {p offset : ℕ} {buffer : List UInt8} {r : ℤ} :
      getCarpincho pid s = some c → p ∈ c.paginas →
      escribirEnPagina E p buffer offset s = .ok (r, s') → Paso E pid s s'
  | lectura {s s' : Estado} {c : Carpincho} {p offset tamanio : ℕ} {r : Option (List UInt8)} :
      getCarpincho pid s = some c → p ∈ c.paginas →
      leerEnPagina E p tamanio offset s = .ok (r, s') → Paso E pid s s'
  | quita {s s' : Estado} {pag : ℕ} : quitarPagina pid pag s = .ok s' → Paso E pid s s'

def Pasos (E : Entorno) (pid : ℤ) : Estado → Estado → Prop := ReflTransGen (Paso E pid)

def DaPaginasDe (pid : ℤ) (pagina : ℕ → Estado → Except Falla ℕ) : Prop :=
  ∀ n s p, pagina n s = .ok p → ∃ c, getCarpincho pid s = some c ∧ p ∈ c.paginas

theorem paginaPorNumero_daPaginasDe (pid : ℤ) : DaPaginasDe pid (paginaPorNumero pid) := by
  intro n s p h
  obtain ⟨c, hc, h⟩ := bind_eq_ok.1 h
  obtain ⟨o, ho, h⟩ := bind_eq_ok.1 h
  obtain ⟨-, -, ho⟩ := bind_eq_ok.1 ho
  cases o with
  | none => cases h
  | some q =>
    cases h
    exact ⟨c, carpinchoDe_some hc, List.mem_of_find?_eq_some (Except.ok.inj ho)⟩

theorem escribirAcciones_pasos {pagina : ℕ → Estado → Except Falla ℕ} {valor : List UInt8}
    {escrituras : List PaginaAccion} {sizeAnterior : ℕ} (hpag : DaPaginasDe pid pagina)
    (hs : escribirAcciones E pagina valor escrituras sizeAnterior s = .ok s') :
    Pasos E pid s s' := by
  induction escrituras generalizing s sizeAnterior with
  | nil =>
    cases hs
    exact .refl
  | cons escritura escrituras ih =>
    obtain ⟨page, hpage, hs⟩ := bind_eq_ok.1 hs
    obtain ⟨⟨result, s₁⟩, hescribir, hs⟩ := bind_eq_ok.1 hs
    obtain ⟨c, hc, hp⟩ := hpag _ _ _ hpage
    exact .head (.escritura hc hp hescribir) (ih hs)

theorem persistirMetadataHeap_pasos {unAlloc : Alloc}
    (hs : persistirMetadataHeap E pid unAlloc s = .ok s') : Pasos E pid s s' := by
  obtain ⟨carpincho, -, hs⟩ := bind_eq_ok.1 hs
  obtain ⟨indice, -, hs⟩ := bind_eq_ok.1 hs
  exact escribirAcciones_pasos (paginaPorNumero_daPaginasDe pid) hs

theorem crearPaginas_pasos {n : ℕ} (hs : crearPaginas E pid n s = .ok s') : Pasos E pid s s' := by
  induction n generalizing s with
  | zero =>
    cases hs
    exact .refl
  | succ n ih =>
    obtain ⟨⟨p, s₁⟩, hcrear, hs⟩ := bind_eq_ok.1 hs
    exact .head (.pagina hcrear) (ih hs)

theorem planificarMemalloc_pasos {size : ℕ} {r : CheckAllocRespuesta × Estado}
    (hs : planificarMemalloc E pid size s = .ok r) : Pasos E pid s r.2 := by
  obtain ⟨o, -, hplan⟩ := consulta_of_planifica hs
  cases o with
  | none =>
    rw [hplan.1]
    exact .refl
  | some cantPag =>
    have hpregunta : Paso E pid s (preguntado pid cantPag s) := .mensaje (.consulta pid cantPag)
    rw [Planifica] at hplan
    rw [hplan]
    split
    · exact .tail (.single hpregunta) .carpincho
    · exact .single hpregunta

theorem asignarEnPagina_pasos {size d : ℕ}
    (hs : memallocAsignarEnPaginaConEspacio pid size s = .ok (d, s')) : Pasos E pid s s' := by
  obtain ⟨carpincho, -, hs⟩ := bind_eq_ok.1 hs
  cases hs
  exact .single (.allocs _)

theorem asignarMemalloc_pasos {size : ℕ} {checkStatus : CheckAllocRespuesta}
    {direccion : Option ℕ} (hs : asignarMemalloc E pid size checkStatus s = .ok (direccion, s')) :
    Pasos E pid s s' := by
  cases checkStatus with
  | allocSinEspacio =>
    cases hs
    exact .refl
  | allocHeap =>
    obtain ⟨⟨d, s₁⟩, hheap, hs⟩ := bind_eq_ok.1 hs
    cases hs
    obtain ⟨carpincho, -, hheap⟩ := bind_eq_ok.1 hheap
    obtain ⟨asignado, -, hheap⟩ := bind_eq_ok.1 hheap
    dsimp only at hheap
    split at hheap
    · cases hheap
      exact .single (.allocs _)
    · obtain ⟨s₂, hpersistir, hheap⟩ := bind_eq_ok.1 hheap
      cases hheap
      exact .head (.allocs _) (persistirMetadataHeap_pasos hpersistir)
  | allocPagina =>
    obtain ⟨⟨d, s₁⟩, hpagina, hs⟩ := bind_eq_ok.1 hs
    cases hs
    exact asignarEnPagina_pasos hpagina
  | allocSolicitarPagina =>
    obtain ⟨⟨d, s₁⟩, hnuevas, hs⟩ := bind_eq_ok.1 hs
    cases hs
    obtain ⟨carpincho, -, hnuevas⟩ := bind_eq_ok.1 hnuevas
    obtain ⟨espacioOcupado, -, hnuevas⟩ := bind_eq_ok.1 hnuevas
    obtain ⟨espacioLibre, -, hnuevas⟩ := bind_eq_ok.1 hnuevas
    obtain ⟨cantPag, -, hnuevas⟩ := bind_eq_ok.1 hnuevas
    obtain ⟨s₂, hcrear, hnuevas⟩ := bind_eq_ok.1 hnuevas
    obtain ⟨s₃, hcrear, hok⟩ := bind_eq_ok.1 hcrear
    obtain ⟨-, -, hok⟩ := bind_eq_ok.1 hok
    cases hok
    exact (crearPaginas_pasos hcrear).trans (asignarEnPagina_pasos hnuevas)

theorem memoryMemalloc_pasos {size : ℕ} {r : StatusMemoryOp × Option ℕ}
    (hs : memoryMemalloc E pid size s = .ok (r, s')) : Pasos E pid s s' := by
  obtain ⟨⟨checkStatus, s₁⟩, hplan, hs⟩ := bind_eq_ok.1 hs
  obtain ⟨⟨direccion, s₂⟩, hasignar, hs⟩ := bind_eq_ok.1 hs
  have hasignado := (planificarMemalloc_pasos hplan).trans (asignarMemalloc_pasos hasignar)
  cases direccion with
  | none =>
    cases hs
    exact hasignado
  | some direccion =>
    obtain ⟨s₃, hpersistir, hs⟩ := bind_eq_ok.1 hs
    cases hs
    obtain ⟨carpincho, -, hpersistir⟩ := bind_eq_ok.1 hpersistir
    split at hpersistir
    · cases hpersistir
    · exact hasignado.trans (persistirMetadataHeap_pasos hpersistir)

theorem compactarMientras_pasos {fuel : ℕ} (hs : compactarMientras E pid fuel s = .ok s') :
    Pasos E pid s s' := by
  induction fuel generalizing s with
  | zero => cases hs
  | succ fuel ih =>
    obtain ⟨⟨resultado, s₁⟩, hcompactar, hs⟩ := bind_eq_ok.1 hs
    cases resultado with
    | false =>
      cases hs
      rw [compactar_falso hcompactar]
      exact .refl
    | true =>
      obtain ⟨c, -, hcompactar⟩ := bind_eq_ok.1 hcompactar
      split at hcompactar
      · cases hcompactar
      · obtain ⟨l, -, hcompactar⟩ := bind_eq_ok.1 hcompactar
        split at hcompactar
        · obtain ⟨allocs, -, hcompactar⟩ := bind_eq_ok.1 hcompactar
          obtain ⟨s₂, hquitar, hcompactar⟩ := bind_eq_ok.1 hcompactar
          cases hcompactar
          exact .head (.allocs allocs) (.head (.quita hquitar) (ih hs))
        · cases hcompactar

theorem memoryMemfree_pasos {pos : ℕ} {status : StatusMemoryOp}
    (hs : memoryMemfree E pid pos s = .ok (status, s')) : Pasos E pid s s' := by
  rcases memoryMemfree_cases hs with ⟨-, rfl, -⟩ |
    ⟨c, allocs, alloc, s₁, -, -, -, -, hpersistir, hmientras⟩
  · exact .refl
  · exact .head (.allocs allocs)
      ((persistirMetadataHeap_pasos hpersistir).trans (compactarMientras_pasos hmientras))

end Pasos

section Heaps

def paginasDe (pid : ℤ) (s : Estado) : List ℕ :=
  ((getCarpincho pid s).map Carpincho.paginas).getD []

def allocsDe (pid : ℤ) (s : Estado) : List Alloc :=
  ((getCarpincho pid s).map Carpincho.allocs).getD []

/-- The pages and the allocs of the carpincho with a pid are the same. -/
def MismoHeap (q : ℤ) (s s' : Estado) : Prop :=
  (getCarpincho q s').map Carpincho.heap = (getCarpincho q s).map Carpincho.heap

theorem paginasDe_of_some (hc : getCarpincho pid s = some c) : paginasDe pid s = c.paginas := by
  rw [paginasDe, hc]
  rfl

theorem allocsDe_of_some (hc : getCarpincho pid s = some c) : allocsDe pid s = c.allocs := by
  rw [allocsDe, hc]
  rfl

theorem MismoHeap.trans (h : MismoHeap q s s') (h' : MismoHeap q s' s'') : MismoHeap q s s'' :=
  Eq.trans h' h

theorem MismoHeap.of_heaps (h : s'.heaps = s.heaps) (q : ℤ) : MismoHeap q s s' :=
  getCarpincho_heap h q

theorem MismoHeap.eq (h : MismoHeap q s s') :
    paginasDe q s' = paginasDe q s ∧ allocsDe q s' = allocsDe q s := by
  have hpaginas := congrArg (Option.map fun x => x.2.1) h
  have hallocs := congrArg (Option.map fun x => x.2.2) h
  rw [Option.map_map, Option.map_map] at hpaginas hallocs
  exact ⟨congrArg (fun o => o.getD []) hpaginas, congrArg (fun o => o.getD []) hallocs⟩

theorem MismoHeap.setCarpincho {f : Carpincho → Carpincho} (hf : ∀ c, (f c).pid = c.pid)
    (hq : q ≠ pid) : MismoHeap q s (s.setCarpincho pid f) := by
  unfold MismoHeap getCarpincho Estado.setCarpincho
  dsimp only
  rw [List.find?_map]
  have hmira : (fun d : Carpincho => decide (d.pid = q)) ∘
      (fun d => if d.pid = pid then f d else d) = fun d => decide (d.pid = q) := by
    funext d
    rw [Function.comp_apply]
    split
    · rw [hf]
    · rfl
  rw [hmira]
  cases hd : s.carpinchosList.find? fun d => decide (d.pid = q) with
  | none => rfl
  | some d =>
    have hpid : d.pid = q := by simpa using List.find?_some hd
    simp only [Option.map_some]
    rw [if_neg (hpid ▸ hq)]

theorem MismoHeap.createCarpincho (hq : q ≠ pid) : MismoHeap q s (createCarpincho pid s) := by
  unfold Memoria.createCarpincho
  split
  · rfl
  · unfold MismoHeap getCarpincho
    dsimp only
    rw [List.find?_append]
    simp [hq.symm]

theorem MismoHeap.setAllocs (hq : q ≠ pid) (allocs : List Alloc) :
    MismoHeap q s (setAllocs pid allocs s) :=
  MismoHeap.setCarpincho (f := fun d => { d with allocs := allocs }) (fun _ => rfl) hq

theorem MismoHeap.createPagina {p : ℕ} (hq : q ≠ pid) (hs : createPagina E pid s = .ok (p, s')) :
    MismoHeap q s s' := by
  obtain ⟨c, hc, -, hheaps⟩ := heaps_createPagina hs
  obtain ⟨rfl, -⟩ := getCarpincho_pid hc
  have hdescriptor : MismoHeap q s (conDescriptor c s) := rfl
  have hpagina : MismoHeap q (conDescriptor c s) (conPagina c s) :=
    .setCarpincho (fun _ => rfl) hq
  exact (hdescriptor.trans hpagina).trans (.of_heaps hheaps q)

theorem MismoHeap.quitarPagina {pag : ℕ} (hq : q ≠ pid)
    (hs : quitarPagina pid pag s = .ok s') : MismoHeap q s s' := by
  obtain ⟨-, -, hs⟩ := bind_eq_ok.1 hs
  obtain ⟨c, -, hs⟩ := bind_eq_ok.1 hs
  obtain ⟨i, -, hs⟩ := bind_eq_ok.1 hs
  have hsin : MismoHeap q s
      (s.setCarpincho pid fun d => { d with paginas := c.paginas.eraseIdx i.toNat }) :=
    .setCarpincho (fun _ => rfl) hq
  split at hs
  · dsimp only at hs
    split at hs
    · cases hs
      exact hsin
    · obtain ⟨-, -, hs⟩ := bind_eq_ok.1 hs
      cases hs
      exact hsin
  · cases hs

/-- A step of a call on one carpincho leaves the heaps of the others as they were. -/
theorem MismoHeap.paso (hq : q ≠ pid) (h : Paso E pid s s') : MismoHeap q s s' := by
  cases h with
  | mensaje m => rfl
  | carpincho => exact .createCarpincho hq
  | allocs allocs => exact .setAllocs hq allocs
  | pagina hs => exact .createPagina hq hs
  | escritura _ _ hs => exact .of_heaps (heaps_escribirEnPagina hs) q
  | lectura _ _ hs => exact .of_heaps (heaps_leerEnPagina hs) q
  | quita hs => exact .quitarPagina hq hs

theorem MismoHeap.pasos (hq : q ≠ pid) (h : Pasos E pid s s') : MismoHeap q s s' := by
  induction h with
  | refl => rfl
  | tail _ hpaso ih => exact ih.trans (.paso hq hpaso)

end Heaps

end Carpinchos.Memoria
