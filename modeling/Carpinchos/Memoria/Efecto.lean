import Carpinchos.Memoria.Api
import Carpinchos.Memoria.TlbInvariante

/-!
# What the paging functions leave alone

Whatever page they bring in or evict, the functions below the heap do not change which
pages and allocs a carpincho has, which descriptors exist, or which have been freed. A
page that is created is added at the end of its carpincho.
-/

namespace Carpinchos.Memoria

open Outcome Estado

section Heaps

/-- What the heap functions see of a carpincho. -/
def Carpincho.heap (c : Carpincho) : ℤ × List ℕ × List Alloc := (c.pid, c.paginas, c.allocs)

def Estado.heaps (s : Estado) : List (ℤ × List ℕ × List Alloc) × ℕ × (ℕ → Bool) :=
  (s.carpinchosList.map Carpincho.heap, s.proximoPtr, fun p => (s.descriptor p).liberada)

/-- A view of the descriptors that shows neither the place of a page nor its bits or its
name. -/
structure Vista (β : Type) where
  ver : ℕ → Pagina → β
  ciega : ∀ p q q', q.liberada = q'.liberada → q.timestamp = q'.timestamp → ver p q = ver p q'

/-- The time stamp of a page is not shown. -/
def Vista.SinEstampa {β : Type} (g : Vista β) (p : ℕ) : Prop :=
  ∀ q q' : Pagina, q.liberada = q'.liberada → g.ver p q = g.ver p q'

def Estado.vista {β : Type} (g : Vista β) (s : Estado) :
    List (ℤ × List ℕ × List Alloc) × ℕ × (ℕ → β) :=
  (s.carpinchosList.map Carpincho.heap, s.proximoPtr, fun p => g.ver p (s.descriptor p))

def Vista.liberadas : Vista Bool := ⟨fun _ q => q.liberada, fun _ _ _ h _ => h⟩

/-- The time stamps of all pages but one. -/
def Vista.estampasSalvo (p : ℕ) : Vista (Option ℕ) where
  ver := fun q d => if q = p then none else some d.timestamp
  ciega := fun q d d' _ h => by rw [h]

theorem Vista.sinEstampa_liberadas (p : ℕ) : Vista.liberadas.SinEstampa p := fun _ _ h => h

theorem Vista.sinEstampa_estampasSalvo (p : ℕ) : (Vista.estampasSalvo p).SinEstampa p := by
  intro q q' _
  simp only [estampasSalvo, if_true]

variable {β : Type} {g : Vista β} {s s' : Estado}

@[simp] theorem vista_setTlb (entrada : ℕ) (f : Tlb → Tlb) :
    (s.setTlb entrada f).vista g = s.vista g := rfl

@[simp] theorem vista_setMarco (numero : ℤ) (f : Marco → Marco) :
    (s.setMarco numero f).vista g = s.vista g := rfl

theorem vista_setPagina {p : ℕ} {f : Pagina → Pagina} (hf : ∀ q, g.ver p (f q) = g.ver p q) :
    (s.setPagina p f).vista g = s.vista g := by
  simp only [vista, setPagina, Prod.mk.injEq, true_and]
  funext q
  by_cases h : q = p
  · subst h
    simp [hf]
  · simp [h]

theorem vista_setCarpincho {pid : ℤ} {f : Carpincho → Carpincho}
    (hf : ∀ c, (f c).heap = c.heap) : (s.setCarpincho pid f).vista g = s.vista g := by
  simp only [vista, map_setCarpincho hf]
  rfl

theorem vista_setCarpincho_congr {pid : ℤ} {f : Carpincho → Carpincho}
    (hf : ∀ c c', c.heap = c'.heap → (f c).heap = (f c').heap) (h : s'.vista g = s.vista g) :
    (s'.setCarpincho pid f).vista g = (s.setCarpincho pid f).vista g := by
  simp only [vista, Prod.mk.injEq] at h ⊢
  refine ⟨?_, h.2⟩
  have hmap : ∀ l l' : List Carpincho, l.map Carpincho.heap = l'.map Carpincho.heap →
      (l.map fun c => if c.pid = pid then f c else c).map Carpincho.heap =
        (l'.map fun c => if c.pid = pid then f c else c).map Carpincho.heap := by
    intro l
    induction l with
    | nil =>
      intro l' hl
      rw [List.map_eq_nil_iff.1 hl.symm]
    | cons c l ih =>
      intro l' hl
      cases l' with
      | nil => cases hl
      | cons c' l' =>
        simp only [List.map_cons, List.cons.injEq] at hl ⊢
        refine ⟨?_, ih l' hl.2⟩
        have hpid : c.pid = c'.pid := congrArg Prod.fst hl.1
        rw [hpid]
        split
        · exact hf c c' hl.1
        · exact hl.1
  exact hmap _ _ h.1

theorem getCarpincho_heap (h : s'.heaps = s.heaps) (pid : ℤ) :
    (getCarpincho pid s').map Carpincho.heap = (getCarpincho pid s).map Carpincho.heap := by
  have hmap : ∀ l : List Carpincho, (l.find? fun c => c.pid = pid).map Carpincho.heap =
      (l.map Carpincho.heap).find? fun h => h.1 = pid := by
    intro l
    rw [List.find?_map]
    rfl
  have hlist : s'.carpinchosList.map Carpincho.heap = s.carpinchosList.map Carpincho.heap :=
    congrArg Prod.fst h
  unfold getCarpincho
  rw [hmap, hmap, hlist]

theorem getCarpincho_some_of_heaps (h : s'.heaps = s.heaps) {pid : ℤ} {c : Carpincho}
    (hc : getCarpincho pid s = some c) :
    ∃ c', getCarpincho pid s' = some c' ∧ c'.heap = c.heap := by
  have hmap := getCarpincho_heap h pid
  rw [hc] at hmap
  exact Option.map_eq_some_iff.1 hmap

theorem proximoPtr_of_heaps (h : s'.heaps = s.heaps) : s'.proximoPtr = s.proximoPtr :=
  congrArg (fun x => x.2.1) h

theorem liberada_of_heaps (h : s'.heaps = s.heaps) (p : ℕ) :
    (s'.descriptor p).liberada = (s.descriptor p).liberada :=
  congrFun (congrArg (fun x => x.2.2) h) p

theorem getCarpincho_pid {pid : ℤ} {c : Carpincho} (h : getCarpincho pid s = some c) :
    c.pid = pid ∧ c ∈ s.carpinchosList :=
  ⟨by simpa using List.find?_some h, List.mem_of_find?_eq_some h⟩

theorem getCarpincho_setCarpincho {pid : ℤ} {f : Carpincho → Carpincho}
    (hf : ∀ c, (f c).pid = c.pid) {c : Carpincho} (hc : getCarpincho pid s = some c) :
    getCarpincho pid (s.setCarpincho pid f) = some (f c) := by
  obtain ⟨hpid, -⟩ := getCarpincho_pid hc
  simp only [getCarpincho, setCarpincho, List.find?_map] at hc ⊢
  have hcongr : (fun d : Carpincho => decide (d.pid = pid)) ∘
      (fun d => if d.pid = pid then f d else d) = fun d => decide (d.pid = pid) := by
    funext d
    simp only [Function.comp_apply]
    split
    · rw [hf]
    · rfl
  rw [hcongr, hc]
  simp [hpid]

theorem getCarpincho_setAllocs {pid : ℤ} {c : Carpincho} (hc : getCarpincho pid s = some c)
    (allocs : List Alloc) :
    getCarpincho pid (setAllocs pid allocs s) = some { c with allocs := allocs } :=
  getCarpincho_setCarpincho (f := fun d => { d with allocs := allocs }) (fun _ => rfl) hc

end Heaps

section Tlb

variable {β : Type} {g : Vista β} {E : Entorno} {s s' : Estado}

theorem vista_obtenerTimeStamp {ts : ℕ} (h : obtenerTimeStamp s = .ok (ts, s')) :
    s'.vista g = s.vista g := by
  obtain ⟨c, -, h⟩ := bind_eq_ok.1 h
  cases h
  rfl

theorem vista_obtenerTimeStampTLB {ts : ℕ} (h : obtenerTimeStampTLB s = .ok (ts, s')) :
    s'.vista g = s.vista g := by
  obtain ⟨c, -, h⟩ := bind_eq_ok.1 h
  cases h
  rfl

theorem mem_of_listGet {α : Type} {l : List α} {i : ℤ} {a : α} (h : listGet l i = some a) :
    a ∈ l := by
  unfold listGet at h
  split at h
  · exact List.mem_of_getElem? h
  · cases h

/-- The entry that leaves is one of the TLB, which is at most reordered. -/
theorem proximaPaginaASacarTlb_cases {t : Tlb} (h : proximaPaginaASacarTlb E s = .ok (t, s')) :
    ∃ l fifo, l.Perm s.tlbList ∧ t ∈ l ∧ s' = { s with tlbList := l, tlbFifoPointer := fifo } := by
  have hlibre : ∀ {u}, getNextFreeTlbItem s = some u → u ∈ s.tlbList :=
    fun hu => List.mem_of_find?_eq_some hu
  unfold proximaPaginaASacarTlb at h
  split at h
  · unfold proximaPaginaASacarTlbByLru at h
    split at h
    · split at h
      · cases h
      · next hu =>
        cases h
        exact ⟨s.tlbList, s.tlbFifoPointer, .refl _, hlibre hu, rfl⟩
    · dsimp only at h
      split at h
      · cases h
      · next hu =>
        cases h
        exact ⟨_, s.tlbFifoPointer, (mem_ordenarPor _ _).trans (mem_ordenarPor _ _),
          mem_of_listGet hu, rfl⟩
  · unfold proximaPaginaASacarTlbByFifo at h
    split at h
    · split at h
      · cases h
      · next hu =>
        cases h
        exact ⟨s.tlbList, s.tlbFifoPointer, .refl _, hlibre hu, rfl⟩
    · dsimp only at h
      split at h
      · cases h
      · next hu =>
        cases h
        exact ⟨_, _, mem_ordenarPor _ _, mem_of_listGet hu, rfl⟩

theorem vista_proximaPaginaASacarTlb {t : Tlb} (h : proximaPaginaASacarTlb E s = .ok (t, s')) :
    s'.vista g = s.vista g := by
  obtain ⟨l, fifo, -, -, rfl⟩ := proximaPaginaASacarTlb_cases h
  rfl

theorem vista_cargarPaginaPaginaTlb {p : ℕ} {marco : ℤ}
    (h : cargarPaginaPaginaTlb p marco s = .ok s') : s'.vista g = s.vista g := by
  unfold cargarPaginaPaginaTlb at h
  split at h
  · cases h
  · obtain ⟨⟨ts, s₁⟩, hts, h⟩ := bind_eq_ok.1 h
    cases h
    exact (vista_setTlb _ _).trans (vista_obtenerTimeStampTLB hts)

theorem vista_actualizarTlbMarcoPresente {marco : ℤ}
    (h : actualizarTlbMarcoPresente marco s = .ok s') : s'.vista g = s.vista g := by
  unfold actualizarTlbMarcoPresente at h
  split at h
  · cases h
  · obtain ⟨pagina, -, h⟩ := bind_eq_ok.1 h
    cases pagina with
    | none => cases h
    | some p =>
      cases h
      apply vista_setPagina
      exact fun _ => g.ciega _ _ _ rfl rfl

theorem vista_actualizarTlb {p : ℕ} {marco : ℤ} (h : actualizarTlb E p marco s = .ok s') :
    s'.vista g = s.vista g := by
  unfold actualizarTlb at h
  split at h
  · cases h
    rfl
  · split at h
    · exact vista_actualizarTlbMarcoPresente h
    · obtain ⟨⟨saliente, s₁⟩, hsaliente, h⟩ := bind_eq_ok.1 h
      exact (vista_cargarPaginaPaginaTlb h).trans
        ((vista_setTlb _ _).trans (vista_proximaPaginaASacarTlb hsaliente))

theorem vista_tlbHit {p : ℕ} (h : tlbHit p s = .ok s') : s'.vista g = s.vista g := by
  unfold tlbHit at h
  split at h
  · cases h
  · obtain ⟨hits, -, h⟩ := bind_eq_ok.1 h
    obtain ⟨totales, -, h⟩ := bind_eq_ok.1 h
    cases h
    apply vista_setCarpincho
    exact fun _ => rfl

theorem vista_tlbMiss {p : ℕ} (h : tlbMiss p s = .ok s') : s'.vista g = s.vista g := by
  unfold tlbMiss at h
  split at h
  · cases h
  · obtain ⟨miss, -, h⟩ := bind_eq_ok.1 h
    obtain ⟨totales, -, h⟩ := bind_eq_ok.1 h
    cases h
    apply vista_setCarpincho
    exact fun _ => rfl

theorem vista_refrescarTlb {p : ℕ} (h : refrescarTlb E p s = .ok s') : s'.vista g = s.vista g := by
  unfold refrescarTlb at h
  split at h
  · cases h
    rfl
  · split at h
    · cases h
    · obtain ⟨⟨ts, s₁⟩, hts, h⟩ := bind_eq_ok.1 h
      cases h
      exact (vista_setTlb _ _).trans (vista_obtenerTimeStamp hts)

end Tlb

section Reemplazo

variable {β : Type} {g : Vista β} {E : Entorno} {s s' : Estado}

theorem vista_vaciarMarcoEnCache {marco : ℤ} (h : vaciarMarcoEnCache E marco s = .ok s') :
    s'.vista g = s.vista g := by
  unfold vaciarMarcoEnCache at h
  split at h
  · cases h
  · cases h
    split <;> rfl

theorem vista_pasada (edit limpia : Bool) (ps : List ℕ) (j : ℕ) (s : Estado) :
    (pasada edit limpia ps j s).2.vista g = s.vista g := by
  induction ps generalizing j s with
  | nil => rfl
  | cons p ps ih =>
    simp only [pasada]
    split
    · rfl
    · rw [ih]
      split
      · apply vista_setPagina
        exact fun _ => g.ciega _ _ _ rfl rfl
      · rfl

theorem vista_pasadas (ps : List ℕ) (j : ℕ) (passes : List (Bool × Bool)) (s : Estado) :
    (pasadas ps j passes s).2.vista g = s.vista g := by
  induction passes generalizing s with
  | nil => rfl
  | cons pass passes ih =>
    obtain ⟨edit, limpia⟩ := pass
    have hp := vista_pasada (g := g) edit limpia ps j s
    simp only [pasadas]
    split
    · next h =>
      rw [h] at hp
      exact hp
    · next h =>
      rw [h] at hp
      exact (ih _).trans hp

theorem vista_avanzarPuntero (pid : ℤ) (j stackSize : ℕ) (s : Estado) :
    (avanzarPuntero E pid j stackSize s).vista g = s.vista g := by
  unfold avanzarPuntero
  dsimp only
  split
  · apply vista_setCarpincho
    exact fun _ => rfl
  · rfl

theorem vista_getProximaASwampearByMClock {paginas : List ℕ} {v : ℕ}
    (h : getProximaASwampearByMClock E paginas s = .ok (v, s')) : s'.vista g = s.vista g := by
  unfold getProximaASwampearByMClock at h
  split at h
  · cases h
  · next page resto _ =>
    split at h
    · cases h
    · next last _ =>
      have hp := vista_pasadas (g := g) ((page :: resto).drop last) last cuatroPasadas s
      split at h
      · cases h
      · next heq =>
        cases h
        rw [heq] at hp
        exact (vista_avanzarPuntero _ _ _ _).trans hp

theorem vista_elegirPaginaASwampear {pid : ℤ} {v : ℕ}
    (h : elegirPaginaASwampear E pid s = .ok (v, s')) : s'.vista g = s.vista g := by
  obtain ⟨paginas, -, h⟩ := bind_eq_ok.1 h
  split at h
  · exact vista_getProximaASwampearByMClock h
  · unfold getProximaASwampearByLru at h
    split at h
    · cases h
    · cases h
      rfl

theorem vista_guardarEnSwamp (v : ℕ) (s : Estado) : (guardarEnSwamp E v s).vista g = s.vista g := by
  unfold guardarEnSwamp
  split <;> rfl

theorem vista_desalojarPagina {v : ℕ} {pid pagina marco : ℤ}
    (h : desalojarPagina E v pid pagina s = .ok (marco, s')) : s'.vista g = s.vista g := by
  obtain ⟨s₁, hvaciar, h⟩ := bind_eq_ok.1 h
  dsimp only at h
  split at h
  · cases h
  · cases h
    refine Eq.trans (vista_setPagina fun _ => g.ciega _ _ _ rfl rfl) ?_
    rw [vista_setMarco, vista_vaciarMarcoEnCache hvaciar, vista_guardarEnSwamp]

theorem vista_escribirEnCache (marco : ℤ) (buffer : List UInt8) (offset : ℕ) (s : Estado) :
    (escribirEnCache E marco buffer offset s).2.vista g = s.vista g := by
  unfold escribirEnCache
  split <;> rfl

theorem vista_lecturaSwamp (pid pagina marco : ℤ) (s : Estado) :
    (lecturaSwamp E pid pagina marco s).2.vista g = s.vista g := by
  unfold lecturaSwamp
  dsimp only
  split
  · rfl
  · exact vista_escribirEnCache _ _ _ _

theorem vista_swampearPagina {pid pagina marco : ℤ}
    (h : swampearPagina E pid pagina s = .ok (marco, s')) : s'.vista g = s.vista g := by
  obtain ⟨⟨v, s₁⟩, helegir, h⟩ := bind_eq_ok.1 h
  dsimp only at h
  split at h
  · obtain ⟨⟨m, s₂⟩, hdesalojar, h⟩ := bind_eq_ok.1 h
    cases h
    exact (vista_lecturaSwamp _ _ _ _).trans
      ((vista_desalojarPagina hdesalojar).trans (vista_elegirPaginaASwampear helegir))
  · cases h
    exact vista_elegirPaginaASwampear helegir

theorem vista_swampearPaginaWhenCreatePage {pid pagina marco : ℤ}
    (h : swampearPaginaWhenCreatePage E pid pagina s = .ok (marco, s')) :
    s'.vista g = s.vista g := by
  obtain ⟨⟨v, s₁⟩, helegir, h⟩ := bind_eq_ok.1 h
  exact (vista_desalojarPagina h).trans (vista_elegirPaginaASwampear helegir)

end Reemplazo

section Acceso

variable {β : Type} {g : Vista β} {E : Entorno} {s s' : Estado} {p : ℕ}

theorem vista_obtenerMarcoSinTlb {marco : ℤ} (h : obtenerMarcoSinTlb E p s = .ok (marco, s')) :
    s'.vista g = s.vista g := by
  unfold obtenerMarcoSinTlb at h
  split at h
  · obtain ⟨s₁, hmiss, h⟩ := bind_eq_ok.1 h
    cases h
    exact vista_tlbMiss hmiss
  · obtain ⟨s₁, hhit, h⟩ := bind_eq_ok.1 h
    exact (vista_swampearPagina h).trans (vista_tlbHit hhit)

theorem vista_obtenerMarcoParaPagina {fuel : ℕ} {marco : ℤ}
    (h : obtenerMarcoParaPagina E fuel p s = .ok (marco, s')) : s'.vista g = s.vista g := by
  induction fuel generalizing marco s s' with
  | zero => cases h
  | succ fuel ih =>
    unfold obtenerMarcoParaPagina at h
    split at h
    · obtain ⟨s₁, hhit, h⟩ := bind_eq_ok.1 h
      obtain ⟨⟨m, s₂⟩, hmarco, h⟩ := bind_eq_ok.1 h
      obtain ⟨s₃, hrefrescar, h⟩ := bind_eq_ok.1 h
      cases h
      have hmarco' : s₂.vista g = s₁.vista g := by
        unfold getMarcoDeTlb at hmarco
        split at hmarco
        · split at hmarco
          · cases hmarco
          · split at hmarco
            · cases hmarco
            · split at hmarco
              · cases hmarco
                rfl
              · exact Eq.trans (ih hmarco) rfl
        · cases hmarco
          rfl
      exact (vista_refrescarTlb hrefrescar).trans (hmarco'.trans (vista_tlbHit hhit))
    · obtain ⟨⟨m, s₁⟩, hmarco, h⟩ := bind_eq_ok.1 h
      obtain ⟨s₂, hactualizar, h⟩ := bind_eq_ok.1 h
      cases h
      exact (vista_actualizarTlb hactualizar).trans (vista_obtenerMarcoSinTlb hmarco)

theorem vista_traerPagina {marco : Option ℤ} (h : traerPagina E p s = .ok (marco, s')) :
    s'.vista g = s.vista g := by
  obtain ⟨-, -, h⟩ := bind_eq_ok.1 h
  obtain ⟨s₁, hrefrescar, h⟩ := bind_eq_ok.1 h
  obtain ⟨⟨m, s₂⟩, hmarco, h⟩ := bind_eq_ok.1 h
  have hrefrescar' : s₁.vista g = s.vista g := by
    split at hrefrescar
    · exact vista_refrescarTlb hrefrescar
    · cases hrefrescar
      rfl
  have hmarco' := vista_obtenerMarcoParaPagina (g := g) hmarco
  dsimp only at h
  split at h <;> cases h
  · exact Eq.trans (vista_setPagina fun _ => g.ciega _ _ _ rfl rfl) (hmarco'.trans hrefrescar')
  · refine Eq.trans (vista_setPagina fun _ => g.ciega _ _ _ rfl rfl) ?_
    exact Eq.trans (vista_setPagina fun _ => g.ciega _ _ _ rfl rfl) (hmarco'.trans hrefrescar')

theorem vista_marcarAcceso {esEscritura : Bool} (hp : g.SinEstampa p)
    (h : marcarAcceso E esEscritura p s = .ok s') : s'.vista g = s.vista g := by
  unfold marcarAcceso at h
  split at h
  · cases h
    apply vista_setPagina
    exact fun _ => hp _ _ rfl
  · obtain ⟨⟨ts, s₁⟩, hts, h⟩ := bind_eq_ok.1 h
    cases h
    exact Eq.trans (vista_setPagina fun _ => hp _ _ rfl) (vista_obtenerTimeStamp hts)

theorem vista_leerEnPagina {tamanio offset : ℕ} {contenido : Option (List UInt8)}
    (hp : g.SinEstampa p) (h : leerEnPagina E p tamanio offset s = .ok (contenido, s')) :
    s'.vista g = s.vista g := by
  obtain ⟨⟨marco, s₁⟩, htraer, h⟩ := bind_eq_ok.1 h
  cases marco with
  | none =>
    cases h
    exact vista_traerPagina htraer
  | some marco =>
    obtain ⟨-, -, h⟩ := bind_eq_ok.1 h
    obtain ⟨s₂, hmarcar, h⟩ := bind_eq_ok.1 h
    cases h
    exact (vista_marcarAcceso hp hmarcar).trans (vista_traerPagina htraer)

theorem vista_escribirEnPagina {offset : ℕ} {buffer : List UInt8} {result : ℤ}
    (hp : g.SinEstampa p) (h : escribirEnPagina E p buffer offset s = .ok (result, s')) :
    s'.vista g = s.vista g := by
  obtain ⟨⟨marco, s₁⟩, htraer, h⟩ := bind_eq_ok.1 h
  cases marco with
  | none =>
    cases h
    exact vista_traerPagina htraer
  | some marco =>
    obtain ⟨-, -, h⟩ := bind_eq_ok.1 h
    obtain ⟨s₂, hmarcar, h⟩ := bind_eq_ok.1 h
    cases h
    exact (vista_marcarAcceso hp hmarcar).trans
      ((vista_escribirEnCache _ _ _ _).trans (vista_traerPagina htraer))

theorem heaps_leerEnPagina {tamanio offset : ℕ} {contenido : Option (List UInt8)}
    (h : leerEnPagina E p tamanio offset s = .ok (contenido, s')) : s'.heaps = s.heaps :=
  vista_leerEnPagina (Vista.sinEstampa_liberadas p) h

theorem heaps_escribirEnPagina {offset : ℕ} {buffer : List UInt8} {result : ℤ}
    (h : escribirEnPagina E p buffer offset s = .ok (result, s')) : s'.heaps = s.heaps :=
  vista_escribirEnPagina (Vista.sinEstampa_liberadas p) h

theorem heaps_escribirAcciones {pagina : ℕ → Estado → Except Falla ℕ} {valor : List UInt8}
    {escrituras : List PaginaAccion} {sizeAnterior : ℕ}
    (h : escribirAcciones E pagina valor escrituras sizeAnterior s = .ok s') :
    s'.heaps = s.heaps := by
  induction escrituras generalizing s sizeAnterior with
  | nil =>
    cases h
    rfl
  | cons escritura escrituras ih =>
    obtain ⟨page, -, h⟩ := bind_eq_ok.1 h
    obtain ⟨⟨result, s₁⟩, hescribir, h⟩ := bind_eq_ok.1 h
    exact (ih h).trans (heaps_escribirEnPagina hescribir)

theorem heaps_leerAcciones {pagina : ℕ → Estado → Except Falla ℕ} {buffer : List UInt8}
    {lecturas : List PaginaAccion} {sizeAnterior : ℕ} {r : List UInt8}
    (h : leerAcciones E pagina lecturas sizeAnterior buffer s = .ok (r, s')) :
    s'.heaps = s.heaps := by
  induction lecturas generalizing s sizeAnterior buffer with
  | nil =>
    cases h
    rfl
  | cons lectura lecturas ih =>
    obtain ⟨page, -, h⟩ := bind_eq_ok.1 h
    obtain ⟨⟨resultadoParcial, s₁⟩, hleer, h⟩ := bind_eq_ok.1 h
    cases resultadoParcial with
    | none => cases h
    | some bytes => exact (ih h).trans (heaps_leerEnPagina hleer)

theorem heaps_persistirMetadataHeap {pid : ℤ} {unAlloc : Alloc}
    (h : persistirMetadataHeap E pid unAlloc s = .ok s') : s'.heaps = s.heaps := by
  obtain ⟨carpincho, -, h⟩ := bind_eq_ok.1 h
  obtain ⟨indice, -, h⟩ := bind_eq_ok.1 h
  exact heaps_escribirAcciones h

end Acceso

section Llamadas

variable {β : Type} {g : Vista β} {E : Entorno} {s s' : Estado} {pid : ℤ} {pos : ℕ}

theorem heaps_memoryMemwrite {valor : List UInt8} {status : StatusMemoryOp}
    (h : memoryMemwrite E pid pos valor s = .ok (status, s')) : s'.heaps = s.heaps := by
  unfold memoryMemwrite at h
  split at h
  · cases h
    rfl
  · split at h
    · split at h
      · cases h
      · dsimp only at h
        split at h
        · cases h
          rfl
        · obtain ⟨-, -, h⟩ := bind_eq_ok.1 h
          obtain ⟨s₁, hescribir, h⟩ := bind_eq_ok.1 h
          cases h
          exact heaps_escribirAcciones hescribir
    · cases h
      rfl

theorem heaps_memoryMemread {buffer : List UInt8} {r : StatusMemoryOp × List UInt8}
    (h : memoryMemread E pid pos buffer s = .ok (r, s')) : s'.heaps = s.heaps := by
  unfold memoryMemread at h
  split at h
  · cases h
    rfl
  · split at h
    · obtain ⟨-, -, h⟩ := bind_eq_ok.1 h
      obtain ⟨⟨leido, s₁⟩, hleer, h⟩ := bind_eq_ok.1 h
      cases h
      exact heaps_leerAcciones hleer
    · cases h
      rfl

end Llamadas

section Creacion

variable {β : Type} {g : Vista β} {E : Entorno} {s s' : Estado} {p : ℕ}

def conDescriptor (c : Carpincho) (s : Estado) : Estado :=
  ({ s with proximoPtr := s.proximoPtr + 1 } : Estado).setPagina s.proximoPtr fun _ =>
    paginaNueva c.pid (c.paginas.length + 1)

def conMarco (p : ℕ) (marco numero pid pagina : ℤ) (s : Estado) : Estado :=
  (s.setPagina p fun q => { q with marco := marco, bitPresencia := true }).setMarco numero
    (Marco.ocupado pid pagina)

/-- The steps of `create_pagina`. -/
theorem createPagina_cases {pid : ℤ} (h : createPagina E pid s = .ok (p, s')) :
    ∃ c beforeValue marco s₁ instancia s₂ s₃, getCarpincho pid s = some c ∧ p = s.proximoPtr ∧
      canCarpinchoAddMarcoToPage E c { s with proximoPtr := s.proximoPtr + 1 } = .ok beforeValue ∧
      marcoParaPaginaNueva E beforeValue c.pid (c.paginas.length + 1 : ℕ) (conDescriptor c s) =
        .ok (marco, s₁) ∧
      getMarcoByMarcoNumber marco s₁ = some instancia ∧
      actualizarTlb E p instancia.marco
        (conMarco p marco instancia.marco c.pid (c.paginas.length + 1 : ℕ) s₁) = .ok s₂ ∧
      marcarCreacion E p s₂ = .ok s₃ ∧
      s' = s₃.setCarpincho c.pid fun c => { c with paginas := c.paginas ++ [p] } := by
  unfold createPagina at h
  split at h
  · cases h
  · next c hc =>
    obtain ⟨beforeValue, hbefore, h⟩ := bind_eq_ok.1 h
    obtain ⟨⟨marco, s₁⟩, hmarco, h⟩ := bind_eq_ok.1 h
    dsimp only at h
    split at h
    · cases h
    · next instancia hinstancia =>
      obtain ⟨s₂, hactualizar, h⟩ := bind_eq_ok.1 h
      obtain ⟨s₃, hmarcar, h⟩ := bind_eq_ok.1 h
      cases h
      exact ⟨c, beforeValue, marco, s₁, instancia, s₂, s₃, hc, rfl, hbefore, hmarco, hinstancia,
        hactualizar, hmarcar, rfl⟩

theorem vista_marcoParaPaginaNueva {beforeValue : Bool} {pid pagina marco : ℤ}
    (h : marcoParaPaginaNueva E beforeValue pid pagina s = .ok (marco, s')) :
    s'.vista g = s.vista g := by
  unfold marcoParaPaginaNueva at h
  split at h
  · split at h
    · cases h
    · cases h
      rfl
  · exact vista_swampearPaginaWhenCreatePage h

theorem vista_marcarCreacion (hp : g.SinEstampa p) (h : marcarCreacion E p s = .ok s') :
    s'.vista g = s.vista g := by
  unfold marcarCreacion at h
  split at h
  · cases h
    apply vista_setPagina
    exact fun _ => hp _ _ rfl
  · obtain ⟨⟨ts, s₁⟩, hts, h⟩ := bind_eq_ok.1 h
    cases h
    exact Eq.trans (vista_setPagina fun _ => hp _ _ rfl) (vista_obtenerTimeStamp hts)

def conPagina (c : Carpincho) (s : Estado) : Estado :=
  (conDescriptor c s).setCarpincho c.pid fun c => { c with paginas := c.paginas ++ [s.proximoPtr] }

theorem vista_createPagina {pid : ℤ} (hp : g.SinEstampa s.proximoPtr)
    (h : createPagina E pid s = .ok (p, s')) :
    ∃ c, getCarpincho pid s = some c ∧ p = s.proximoPtr ∧
      s'.vista g = (conPagina c s).vista g := by
  obtain ⟨c, beforeValue, marco, s₁, instancia, s₂, s₃, hc, rfl, -, hmarco, -, hactualizar,
    hmarcar, rfl⟩ := createPagina_cases h
  refine ⟨c, hc, rfl, vista_setCarpincho_congr ?_ ?_⟩
  · intro d d' hd
    simp only [Carpincho.heap, Prod.mk.injEq] at hd ⊢
    simp [hd]
  · have hconMarco : (conMarco s.proximoPtr marco instancia.marco c.pid
        (c.paginas.length + 1 : ℕ) s₁).vista g = s₁.vista g :=
      (vista_setMarco _ _).trans (vista_setPagina fun _ => g.ciega _ _ _ rfl rfl)
    rw [vista_marcarCreacion hp hmarcar, vista_actualizarTlb hactualizar, hconMarco,
      vista_marcoParaPaginaNueva hmarco]

theorem heaps_createPagina {pid : ℤ} (h : createPagina E pid s = .ok (p, s')) :
    ∃ c, getCarpincho pid s = some c ∧ p = s.proximoPtr ∧ s'.heaps = (conPagina c s).heaps :=
  vista_createPagina (Vista.sinEstampa_liberadas _) h

end Creacion

section Plan

theorem planAlloc_agree {α β : Type} {cfg : Config} {paginas : ℕ} {allocs : List Alloc} {size : ℤ}
    {responder : CheckAllocRespuesta → α} {responder' : CheckAllocRespuesta → β}
    {pedir : ℤ → Except Falla α} {pedir' : ℤ → Except Falla β} {rel : α → β → Prop}
    {excused excused' : Falla → Prop}
    (hresponder : ∀ r, r ≠ .allocSolicitarPagina → rel (responder r) (responder' r))
    (hpedir : ∀ libre, Agree (pedir libre) (pedir' libre) rel excused excused') :
    Agree (planAlloc cfg paginas allocs size responder pedir)
      (planAlloc cfg paginas allocs size responder' pedir') rel excused excused' := by
  refine Agree.bind_same _ fun recorrido => ?_
  cases recorrido with
  | none => exact hresponder .allocHeap (by decide)
  | some espacioOcupado =>
    refine Agree.bind_same _ fun espacioLibreActual => ?_
    refine Agree.bind_same _ fun necesario => ?_
    split
    · exact hresponder .allocPagina (by decide)
    · cases cfg.tipoAsignacion with
      | fija =>
        refine Agree.bind_same _ fun disponibleTeorico => ?_
        split
        · exact hpedir espacioLibreActual
        · exact hresponder .allocSinEspacio (by decide)
      | dinamica => exact hpedir espacioLibreActual

end Plan

end Carpinchos.Memoria
