import Carpinchos.Memoria.Convivencia
import Carpinchos.Memoria.HeapEnOrden

/-!
# What is written stays written

While the blocks of a carpincho are in order, the module writes outside the data of a block in
use, except where the carpincho writes itself. So a read gives what was last written to the block,
whatever the carpincho does with other blocks and whatever the others do.
-/

namespace Carpinchos.Memoria

open Outcome Bytes Solitario Runs Tiling

section Bloques

variable {cfg : Config} {paginas paginas' size direccion : ℕ}
  {allocs allocs' previos siguientes : List Alloc} {alloc a : Alloc}

theorem Colocacion.conserva (h : Colocacion cfg size paginas allocs paginas' allocs' direccion)
    (ha : a ∈ allocs) (huso : a.isFree = false) : a ∈ allocs' := by
  cases h with
  | enPagina => exact List.mem_append_left _ ha
  | enPaginasNuevas => exact List.mem_append_left _ ha
  | @enHeapLibre r hr =>
    obtain ⟨previos, alloc, siguientes, rfl, hlibre, -, htoma, -⟩ := asignarEnHeapLibre_cases hr
    have hotro : a ≠ alloc := by
      rintro rfl
      rw [Alloc.libreConEspacio, huso] at hlibre
      cases hlibre
    have hlados : a ∈ previos ∨ a ∈ siguientes := by
      simpa [hotro] using ha
    have hqueda : ∀ nuevo : Alloc, a ∈ previos ++ nuevo :: siguientes := by
      intro nuevo
      rcases hlados with ha | ha
      · exact List.mem_append_left _ ha
      · exact List.mem_append_right _ (List.mem_cons_of_mem _ ha)
    generalize r.allocs = allocs' at htoma ⊢
    cases htoma with
    | entero => exact hqueda _
    | cortado => exact (List.mem_insertIdx (by simp; omega)).2 (Or.inr (hqueda _))

theorem Colocacion.dado (h : Colocacion cfg size paginas allocs paginas' allocs' direccion)
    (htes : Teselado cfg paginas allocs) (hsize : size < 2 ^ 31) :
    ∃ a ∈ allocs', a.isFree = false ∧ a.direccion + 9 = direccion ∧ (size : ℤ) ≤ a.tamanioData := by
  have hentero := aInt_of_range (x := (size : ℤ)) (by omega) (by omega)
  cases h with
  | @enHeapLibre r hr =>
    obtain ⟨previos, alloc, siguientes, rfl, hlibre, hdir, htoma, -⟩ := asignarEnHeapLibre_cases hr
    have hmem : alloc ∈ previos ++ alloc :: siguientes := by simp
    have hstop := htes.stop_le_uint32 hmem
    have hinicio := htes.inicio_lt_stop hmem
    have hdato := htes.datos alloc hmem
    have hmax := htes.enteros alloc hmem
    have hdireccion : alloc.direccion + 9 = r.direccion := by
      rw [hdir]
      exact_mod_cast (aUint32_natCast (n := alloc.direccion + 9) (by omega)).symm
    rw [Alloc.libreConEspacio, Bool.and_eq_true, decide_eq_true_iff] at hlibre
    have htamanio := aUint32_of_range (x := alloc.tamanioData) (by omega) (by omega)
    generalize r.allocs = allocs' at htoma ⊢
    cases htoma with
    | entero =>
      have htamanio : (size : ℤ) ≤ alloc.tamanioData := by omega
      exact ⟨alloc.dado, by simp, rfl, hdireccion, htamanio⟩
    | cortado =>
      refine ⟨alloc.recortado size, ?_, rfl, hdireccion, hentero.ge⟩
      exact (List.mem_insertIdx (by simp; omega)).2 (Or.inr (by simp))
  | @enPagina ocupado hsumar hcabe =>
    have hocupado := sumarAllocs_eq htes.datos hsumar
    obtain ⟨hespacio, hlt⟩ := espacioTotal_le cfg paginas
    have hbloque := htes.allocAlFinal_eq (by omega) hsize
    refine ⟨_, List.mem_append_right _ List.mem_cons_self, ?_⟩
    rw [hbloque, htes.inicioDatoAlFinal_eq (by omega)]
    exact ⟨rfl, rfl, le_rfl⟩
  | @enPaginasNuevas ocupado cantPag hsumar hcantPag hfalta =>
    have hocupado := sumarAllocs_eq htes.datos hsumar
    obtain ⟨hespacio, hlt⟩ := espacioTotal_le cfg paginas
    obtain ⟨hcaben, hpide⟩ := caben_en_nuevas hcantPag hfalta
    have hbloque := htes.allocAlFinal_eq (by omega) hsize
    refine ⟨_, List.mem_append_right _ List.mem_cons_self, ?_⟩
    rw [hbloque, htes.inicioDatoAlFinal_eq (by omega)]
    exact ⟨rfl, rfl, le_rfl⟩

theorem Teselado.liberado_conserva (h : Teselado cfg paginas (previos ++ alloc :: siguientes))
    (ha : a ∈ previos ++ siguientes) (huso : a.isFree = false) :
    a ∈ trasLiberar previos alloc siguientes := by
  have hused := h.release.1.used_eq
  have hmem : a ∈ bloques.used (previos ++ siguientes) :=
    List.mem_filter.2 ⟨ha, by simp [bloques, huso]⟩
  rw [← hused] at hmem
  exact List.mem_of_mem_filter hmem

/-- The data of a block is not the metadata of any. -/
theorem Teselado.dato_no_cabecera (h : Teselado cfg paginas allocs) (ha : a ∈ allocs) {x : ℕ}
    (hx : a.direccion + 9 ≤ x) (hx' : x < bloques.stop a) (hb : alloc ∈ allocs) :
    x < alloc.direccion ∨ alloc.direccion + 9 ≤ x := by
  have hinicio : ∀ b : Alloc, bloques.start b = b.direccion := fun _ => rfl
  have hfin := h.inicio_lt_stop hb
  rcases h.seguidos.apart ha hb with rfl | hantes | hantes
  · exact Or.inr hx
  · rw [hinicio] at hantes
    omega
  · rw [hinicio] at hantes
    omega

end Bloques

section Bytes

variable {cfg : Config} {concede : ℤ → List ℤ → ℤ → Bool} {pid : ℤ} {size pos direccion : ℕ}
  {t t' t'' : Solitario} {h h' : HeapLlano}

def Solitario.bytes (t : Solitario) : Mem :=
  match t.heap with
  | some h => h.bytes
  | none => vacio.bytes

/-- Only the metadata of blocks of the list is written. -/
def SoloCabeceras (t t' : Solitario) : Prop :=
  ∀ h', t'.heap = some h' → ∀ x, (∀ a ∈ h'.allocs, x < a.direccion ∨ a.direccion + 9 ≤ x) →
    h'.bytes x = t.bytes x

theorem SoloCabeceras.de_bytes (hbytes : t'.bytes = t.bytes) : SoloCabeceras t t' := by
  intro h' hh' x _
  rw [← hbytes, Solitario.bytes, hh']

theorem bytes_de_heap (hh : t.heap = some h) : t.bytes = h.bytes := by
  rw [Solitario.bytes, hh]

theorem SoloCabeceras.persistida (hsolo : SoloCabeceras t t') (unAlloc : Alloc) :
    Spec (persistirMetadata cfg unAlloc t')
      (fun t'' => SoloCabeceras t t'' ∧ ∃ h' h'', t'.heap = some h' ∧ t''.heap = some h'' ∧
        h''.allocs = h'.allocs ∧ h''.paginas = h'.paginas ∧ h''.paginas < 2 ^ 31)
      fun _ => True := by
  refine (persistirMetadata_spec unAlloc t').mono ?_ fun _ he => he
  rintro t'' ⟨h', a, metadata, hh', hpaginas, ha, hlen, rfl⟩
  refine ⟨?_, h', _, hh', rfl, rfl, rfl, hpaginas.2⟩
  intro h'' hh'' x hx
  obtain rfl := Option.some.inj hh''
  rw [← hsolo h' hh' x hx]
  have hfuera := hx a ha
  exact copy_outside _ _ _ (by omega)

theorem asignar_cabeceras (checkStatus : CheckAllocRespuesta) (t : Solitario) :
    Spec (asignar cfg size checkStatus t) (fun r => SoloCabeceras t r.2) fun _ => True := by
  have hheap : ∀ t : Solitario, Spec (heapLlano t) (fun h => t.heap = some h) fun _ => True :=
    fun t => spec_of_ok fun h hh => heapLlano_eq_ok.1 hh
  have halFinal : ∀ t₁ : Solitario, t₁.bytes = t.bytes →
      Spec (asignarAlFinal size t₁) (fun r => SoloCabeceras t r.2) fun _ => True := by
    intro t₁ hbytes
    refine (hheap t₁).bind fun h hh => ?_
    exact .de_bytes ((bytes_de_heap hh).symm.trans hbytes)
  have hmismo : ∀ {x : Except Falla (ℕ × Solitario)},
      Spec x (fun r => SoloCabeceras t r.2) (fun _ => True) →
      Spec (x >>= fun r => .ok (some r.1, r.2)) (fun r => SoloCabeceras t r.2) fun _ => True :=
    fun hx => hx.bind fun _ hr => hr
  cases checkStatus with
  | allocSinEspacio => exact .de_bytes rfl
  | allocHeap =>
    refine hmismo ?_
    refine (hheap t).bind fun h hh => ?_
    refine (spec_of_ok fun a _ => trivial).bind fun asignado _ => ?_
    have hsolo : SoloCabeceras t (conHeap (conAllocs asignado.allocs h) t) :=
      .de_bytes (bytes_de_heap hh).symm
    dsimp only
    split
    · exact hsolo
    · exact (hsolo.persistida _).bind fun _ hr => hr.1
  | allocPagina =>
    exact hmismo (halFinal t rfl)
  | allocSolicitarPagina =>
    refine hmismo ?_
    refine (hheap t).bind fun h hh => ?_
    refine (spec_of_ok fun _ _ => trivial).bind fun _ _ => ?_
    refine (spec_of_ok fun _ _ => trivial).bind fun _ _ => ?_
    refine (spec_of_ok fun _ _ => trivial).bind fun cantPag _ => ?_
    refine (spec_of_ok fun _ _ => trivial).bind fun _ _ => ?_
    exact halFinal _ (bytes_de_heap hh).symm

theorem planificar_bytes (t : Solitario) :
    Spec (planificar cfg concede pid size t) (fun r => r.2.bytes = t.bytes) fun _ => True := by
  have hcualquiera : ∀ {β : Type} (x : Except Falla β), Spec x (fun _ => True) fun _ => True :=
    fun x => spec_of_ok fun _ _ => trivial
  have hsolicitar : ∀ espacio dato, Spec (solicitar cfg concede pid espacio dato t)
      (fun r => r.2.bytes = t.bytes) fun _ => True :=
    fun _ _ => (hcualquiera _).bind fun _ _ => rfl
  unfold planificar
  split
  · next hh =>
    split
    · trivial
    · refine (hcualquiera _).bind fun cantPag _ => ?_
      have hvacio : vacio.bytes = t.bytes := by rw [Solitario.bytes, hh]
      dsimp only
      split
      · exact hvacio
      · rfl
  · refine (hcualquiera _).bind fun recorrido _ => ?_
    cases recorrido with
    | none => rfl
    | some espacioOcupado =>
      refine (hcualquiera _).bind fun espacioLibreActual _ => ?_
      refine (hcualquiera _).bind fun necesario _ => ?_
      split
      · rfl
      · split
        · refine (hcualquiera _).bind fun disponibleTeorico _ => ?_
          split
          · exact hsolicitar _ _
          · rfl
        · exact hsolicitar _ _

theorem memalloc_cabeceras (t : Solitario) :
    Spec (memalloc cfg concede pid size t)
      (fun r => SoloCabeceras t r.2 ∧ ∀ direccion, r.1.2 = some direccion →
        ∃ h', r.2.heap = some h' ∧ h'.paginas < 2 ^ 31) fun _ => True := by
  refine (planificar_bytes t).bind fun r hr => ?_
  obtain ⟨checkStatus, t₁⟩ := r
  refine (asignar_cabeceras checkStatus t₁).bind fun r hr' => ?_
  obtain ⟨direccion, t₂⟩ := r
  have hsolo : SoloCabeceras t t₂ := fun h' hh' x hx => (hr' h' hh' x hx).trans (congrFun hr x)
  cases direccion with
  | none => exact ⟨hsolo, fun _ hno => by cases hno⟩
  | some direccion =>
    refine Spec.bind (?_ : Spec _ (fun t₃ => SoloCabeceras t t₃ ∧
      ∃ h', t₃.heap = some h' ∧ h'.paginas < 2 ^ 31) _) fun t₃ ht₃ => ⟨ht₃.1, fun _ _ => ht₃.2⟩
    refine (spec_of_ok fun h hh => heapLlano_eq_ok.1 hh).bind fun h hh => ?_
    split
    · trivial
    · refine (hsolo.persistida _).mono ?_ fun _ he => he
      rintro t₃ ⟨hsolo₃, h', h'', -, hh'', -, -, hpaginas⟩
      exact ⟨hsolo₃, h'', hh'', hpaginas⟩

/-- A memfree that is accepted takes a block of the list and writes metadata only. -/
theorem memfree_cabeceras (t : Solitario) :
    Spec (memfree cfg pos t)
      (fun r => r.2 = t ∨ ∃ h h' allocs alloc, t.heap = some h ∧ r.2.heap = some h' ∧
        liberarAlloc h.allocs pos = .ok (some (allocs, alloc)) ∧ h'.allocs = allocs ∧
        h'.paginas = h.paginas ∧ h'.paginas < 2 ^ 31 ∧ SoloCabeceras t r.2) fun _ => True := by
  unfold memfree
  split
  · exact Or.inl rfl
  · next h hh =>
    split
    · refine (spec_of_ok fun _ hliberado => hliberado).bind fun liberado hliberado => ?_
      cases liberado with
      | none => exact Or.inl rfl
      | some r =>
        obtain ⟨allocs, alloc⟩ := r
        have hsolo : SoloCabeceras t (conHeap (conAllocs allocs h) t) :=
          .de_bytes (bytes_de_heap hh).symm
        refine (hsolo.persistida alloc).bind fun t' ht' => ?_
        obtain ⟨hsolo', h₁, h', hh₁, hh', hallocs, hpaginas, hmax⟩ := ht'
        obtain rfl := Option.some.inj hh₁
        refine (spec_of_ok fun _ _ => trivial).bind fun deLaPagina _ => ?_
        split
        · trivial
        · exact Or.inr ⟨h, h', allocs, alloc, hh, hh', hliberado, hallocs, hpaginas, hmax, hsolo'⟩
    · exact Or.inl rfl

theorem memwrite_bytes (valor : List UInt8) (t : Solitario) :
    Spec (memwrite cfg pos valor t)
      (fun r => r.1 = .direccionInvalida ∧ r.2 = t ∨ ∃ h, t.heap = some h ∧
        r = (.exito, conHeap (conBytes (copy h.bytes pos valor) h) t)) fun _ => True := by
  unfold memwrite
  split
  · exact Or.inl ⟨rfl, rfl⟩
  · next h hh =>
    split
    · split
      · trivial
      · dsimp only
        split
        · exact Or.inl ⟨rfl, rfl⟩
        · refine (spec_of_ok fun _ _ => trivial).bind fun _ _ => ?_
          refine Spec.bind (?_ : Spec _
            (fun t' => t' = conHeap (conBytes (copy h.bytes pos valor) h) t) _)
            fun t' ht' => Or.inr ⟨h, hh, by rw [ht']⟩
          refine (spec_of_ok fun h' hh' => heapLlano_eq_ok.1 hh').bind fun h' hh' => ?_
          obtain rfl := Option.some.inj (hh.symm.trans hh')
          split
          · rfl
          · trivial
    · exact Or.inl ⟨rfl, rfl⟩

theorem memread_bytes (buffer : List UInt8) (t : Solitario) :
    Spec (memread cfg pos buffer t)
      (fun r => r.2 = t ∧ (r.1.1 = .direccionInvalida ∨ ∃ h, t.heap = some h ∧
        r.1 = (.exito, slice h.bytes pos buffer.length))) fun _ => True := by
  unfold memread
  split
  · exact ⟨rfl, Or.inl rfl⟩
  · next h hh =>
    split
    · refine (spec_of_ok fun _ _ => trivial).bind fun _ _ => ?_
      split
      · exact ⟨rfl, Or.inr ⟨h, hh, rfl⟩⟩
      · trivial
    · exact ⟨rfl, Or.inl rfl⟩

end Bytes

section Acceso

variable {cfg : Config} {pos : ℕ} {t : Solitario} {h : HeapLlano} {a : Alloc}

structure Ordenado (cfg : Config) (h : HeapLlano) : Prop where
  teselado : Teselado cfg h.paginas h.allocs
  unido : Unido h.allocs
  paginas : h.paginas < 2 ^ 31

theorem Ordenado.congr {cfg : Config} {h h' : HeapLlano} (ho : Ordenado cfg h)
    (hpaginas : h'.paginas = h.paginas) (hallocs : h'.allocs = h.allocs) : Ordenado cfg h' := by
  obtain ⟨htes, hunido, hpocas⟩ := ho
  rw [← hpaginas] at hpocas htes
  rw [← hallocs] at htes hunido
  exact ⟨htes, hunido, hpocas⟩

/-- The range is part of the data of the block. -/
def Alloc.cubre (a : Alloc) (pos size : ℕ) : Prop :=
  a.direccion + 9 ≤ pos ∧ pos + size ≤ bloques.stop a

theorem Ordenado.contieneDato_iff (hord : Ordenado cfg h) (ha : a ∈ h.allocs) {x : ℕ} :
    a.contieneDato x = true ↔ a.direccion + 9 ≤ x ∧ x < bloques.stop a := by
  have hinicio := hord.teselado.inicioDato_eq ha
  have hstop := hord.teselado.stop_le_uint32 ha
  have hdato := hord.teselado.datos a ha
  have hbloque := stop_bloques hdato
  have hfin := aUint32_of_range (x := (a.inicioDato : ℤ) + a.tamanioData - 1) (by omega) (by omega)
  rw [← Alloc.finDato] at hfin
  rw [Alloc.contieneDato, Bool.and_eq_true, decide_eq_true_iff, decide_eq_true_iff]
  omega

theorem Ordenado.valida (hord : Ordenado cfg h) (ha : a ∈ h.allocs) {size : ℕ}
    (hcubre : a.cubre pos size) :
    validarDireccionLogicaEscrituraConSize cfg h.paginas h.allocs pos size = true := by
  have hstop := hord.teselado.stop_le_uint32 ha
  obtain ⟨hdesde, hhasta⟩ := hcubre
  refine List.all_eq_true.2 fun i hi => ?_
  rw [List.mem_range] at hi
  have hpos : aUint32 ((pos : ℤ) + i) = pos + i := by
    exact_mod_cast aUint32_natCast (n := pos + i) (by omega)
  rw [validarDireccionLogicaEscritura, hpos, Bool.and_eq_true]
  refine ⟨hord.teselado.direccion_valida hord.paginas ha (by omega), ?_⟩
  exact List.any_eq_true.2 ⟨a, ha, (hord.contieneDato_iff ha).2 (by omega)⟩

theorem Ordenado.obtener (hord : Ordenado cfg h) (ha : a ∈ h.allocs)
    (hx : a.direccion + 9 ≤ pos) (hx' : pos < bloques.stop a) :
    obtenerAllocDeUnCarpincho h.allocs pos = some a := by
  have hinicio : ∀ b : Alloc, bloques.start b = b.direccion := fun _ => rfl
  unfold obtenerAllocDeUnCarpincho
  cases hfind : h.allocs.find? (Alloc.contieneDato pos) with
  | none => exact absurd ((hord.contieneDato_iff ha).2 ⟨hx, hx'⟩) (List.find?_eq_none.1 hfind a ha)
  | some b =>
    have hb := List.mem_of_find?_eq_some hfind
    obtain ⟨hdesde, hhasta⟩ := (hord.contieneDato_iff hb).1 (List.find?_some hfind)
    rcases hord.teselado.seguidos.apart ha hb with rfl | hantes | hantes
    · rfl
    · rw [hinicio] at hantes
      omega
    · rw [hinicio] at hantes
      omega

theorem Ordenado.memwrite_exito (hord : Ordenado cfg h) (hh : t.heap = some h) (ha : a ∈ h.allocs)
    {valor : List UInt8} (hcubre : a.cubre pos valor.length) {status : StatusMemoryOp}
    {t' : Solitario} (hs : memwrite cfg pos valor t = .ok (status, t')) :
    ∃ h', t'.heap = some h' ∧ h'.allocs = h.allocs ∧ h'.paginas = h.paginas ∧
      ∀ i (hi : i < valor.length), h'.bytes (pos + i) = valor[i] := by
  rcases (memwrite_bytes valor t).post_of_eq hs with ⟨hstatus, ht'⟩ | ⟨h₁, hh₁, ht'⟩
  · dsimp only at hstatus ht'
    subst ht' hstatus
    refine ⟨h, hh, rfl, rfl, fun i hi => ?_⟩
    exfalso
    obtain ⟨hdesde, hhasta⟩ := id hcubre
    have hbloque := stop_bloques (hord.teselado.datos a ha)
    have hstop := hord.teselado.stop_le_uint32 ha
    have hfin := aUint32_of_range (x := (a.direccion : ℤ) + 9 + a.tamanioData - 1)
      (by omega) (by omega)
    have hquedan := aUint32_of_range (x := (a.direccion : ℤ) + 9 + a.tamanioData - 1 - pos + 1)
      (by omega) (by omega)
    unfold memwrite at hs
    rw [hh] at hs
    dsimp only at hs
    rw [if_pos (hord.valida ha hcubre), hord.obtener ha hdesde (by omega)] at hs
    dsimp only at hs
    rw [hfin, if_neg (by omega)] at hs
    obtain ⟨_, _, hs⟩ := bind_eq_ok.1 hs
    obtain ⟨t₁, _, hs⟩ := bind_eq_ok.1 hs
    cases hs
  · obtain rfl := Option.some.inj (hh.symm.trans hh₁)
    cases ht'
    exact ⟨_, rfl, rfl, rfl, fun i hi => copy_inside _ _ _ hi⟩

theorem Ordenado.memread_exito (hord : Ordenado cfg h) (hh : t.heap = some h) (ha : a ∈ h.allocs)
    {buffer : List UInt8} (hcubre : a.cubre pos buffer.length)
    {r : (StatusMemoryOp × List UInt8) × Solitario}
    (hs : memread cfg pos buffer t = .ok r) : r.1 = (.exito, slice h.bytes pos buffer.length) := by
  rcases ((memread_bytes buffer t).post_of_eq hs).2 with hstatus | ⟨h₁, hh₁, hr⟩
  · exfalso
    unfold memread at hs
    rw [hh] at hs
    dsimp only at hs
    rw [if_pos (hord.valida ha hcubre)] at hs
    obtain ⟨-, -, hs⟩ := bind_eq_ok.1 hs
    split at hs
    · cases hs
      cases hstatus
    · cases hs
  · obtain rfl := Option.some.inj (hh.symm.trans hh₁)
    exact hr

theorem Ordenado.memfree (hord : Ordenado cfg h) (hh : t.heap = some h) {status : StatusMemoryOp}
    {t' : Solitario} (hs : memfree cfg pos t = .ok (status, t')) :
    t' = t ∨ ∃ h', t'.heap = some h' ∧ Ordenado cfg h' ∧ SoloCabeceras t t' ∧
      ∀ a ∈ h.allocs, a.isFree = false → pos ≠ a.direccion + 9 → a ∈ h'.allocs := by
  refine ((memfree_cabeceras t).post_of_eq hs).imp id ?_
  rintro ⟨h₁, h', allocs, unAlloc, hh₁, hh', hliberar, hallocs, hpaginas, hpocas, hsolo⟩
  obtain rfl := Option.some.inj (hh.symm.trans hh₁)
  have htes := hord.teselado
  have hunido := hord.unido
  obtain ⟨alloc, hmem, huso, hpos⟩ :
      ∃ alloc ∈ h.allocs, alloc.isFree = false ∧ pos = alloc.direccion + 9 := by
    by_contra hno
    push Not at hno
    rw [htes.liberarAlloc_none hno] at hliberar
    cases hliberar
  obtain ⟨previos, siguientes, hlista⟩ := List.append_of_mem hmem
  rw [hlista] at htes hunido hliberar
  rw [htes.liberarAlloc_eq huso hpos] at hliberar
  split at hliberar
  · next hentero =>
    cases hliberar
    obtain ⟨htes', hunido', -⟩ := htes.liberado hunido huso hentero
    rw [← hallocs] at htes' hunido'
    rw [← hpaginas] at htes'
    refine ⟨h', hh', ⟨htes', hunido', hpocas⟩, hsolo, fun a ha hauso hno => ?_⟩
    rw [hallocs]
    refine htes.liberado_conserva ?_ hauso
    have hotro : a ≠ alloc := by
      rintro rfl
      exact hno hpos
    rw [hlista] at ha
    simpa [hotro] using ha
  · cases hliberar

end Acceso

section Juntos

variable {E : Entorno} {concede : ℤ → List ℤ → ℤ → Bool} {pid : ℤ} {s s' : Estado}
  {f : ℤ → Solitario} {t t' : Solitario} {h h' : HeapLlano} {size : ℕ} {a : Alloc}

/-- A call of the module that the carpincho alone would be answered too. -/
def acompanar (E : Entorno) (concede : ℤ → List ℤ → ℤ → Bool) (op : Llamada)
    (x : Estado × (ℤ → Solitario)) : Except Falla (Respuesta × (Estado × (ℤ → Solitario))) := do
  let (_, t) ← Solitario.llamar E.config concede op (x.2 op.pid)
  let (r, s) ← Memoria.llamar E op x.1
  .ok (r, (s, Function.update x.2 op.pid t))

/-- If the call cuts a block of the carpincho in two, it is the first of the list. -/
def Llamada.sinPartir (pid : ℤ) (s : Estado) : Llamada → Bool
  | .memalloc q size =>
    decide (q ≠ pid) || (decide (size < 2 ^ 31) && truncaEnOrden size (allocsDe q s))
  | _ => true

def Llamada.libera (pid : ℤ) (direccion : ℕ) : Llamada → Bool
  | .memfree q pos => decide (q = pid) && decide (pos = direccion)
  | _ => false

def Llamada.escribe (pid : ℤ) (y : ℕ) : Llamada → Bool
  | .memwrite q pos valor => decide (q = pid) && decide (pos ≤ y) && decide (y < pos + valor.length)
  | _ => false

/-- The state is what the carpinchos see, and the blocks of one of them are in order. -/
structure Acorde (E : Entorno) (pid : ℤ) (x : Estado × (ℤ → Solitario)) : Prop where
  refleja : Refleja E x.1 x.2
  orden : ∀ h, (x.2 pid).heap = some h → Ordenado E.config h

/-- The block is in use, and its data stay except where the calls write. -/
def Conserva (pid : ℤ) (ops : List Llamada) (a : Alloc) (t t' : Solitario) : Prop :=
  ∃ h', t'.heap = some h' ∧ a ∈ h'.allocs ∧
    ∀ y, a.direccion + 9 ≤ y → y < bloques.stop a → (∀ op ∈ ops, op.escribe pid y = false) →
      h'.bytes y = t.bytes y

theorem Refleja.mapa (hr : Refleja E s f) (pid : ℤ) :
    (f pid).heap.map (fun h => (h.paginas, h.allocs)) =
      ((getCarpincho pid s).map Carpincho.heap).map fun x => (x.2.1.length, x.2.2) := by
  obtain ⟨n, g, -, -, rfl⟩ := hr
  rw [vistaDe, Option.map_map, Option.map_map]
  rfl

theorem Refleja.listas (hr : Refleja E s f) (pid : ℤ) :
    (paginasDe pid s).length = ((f pid).heap.map HeapLlano.paginas).getD 0 ∧
      allocsDe pid s = ((f pid).heap.map HeapLlano.allocs).getD [] := by
  have hmapa := hr.mapa pid
  unfold paginasDe allocsDe
  cases hc : getCarpincho pid s with
  | none =>
    rw [hc] at hmapa
    rw [Option.map_eq_none_iff.1 hmapa]
    exact ⟨rfl, rfl⟩
  | some c =>
    rw [hc] at hmapa
    obtain ⟨h, hh, heq⟩ := Option.map_eq_some_iff.1 hmapa
    rw [hh]
    exact ⟨(congrArg Prod.fst heq).symm, (congrArg Prod.snd heq).symm⟩

theorem Conserva.refl (ops : List Llamada) (hh : t.heap = some h) (ha : a ∈ h.allocs) :
    Conserva pid ops a t t :=
  ⟨h, hh, ha, fun _ _ _ _ => by rw [bytes_de_heap hh]⟩

/-- Metadata that is written leaves the data of a block of the list. -/
theorem Conserva.de_cabeceras (hsolo : SoloCabeceras t t') (hh' : t'.heap = some h')
    {cfg : Config} (htes : Teselado cfg h'.paginas h'.allocs) (ha : a ∈ h'.allocs)
    (ops : List Llamada) : Conserva pid ops a t t' :=
  ⟨h', hh', ha, fun y hy hy' _ => hsolo h' hh' y fun _ hb => htes.dato_no_cabecera ha hy hy' hb⟩

/-- A memalloc in order: it is refused, or a block is given and those in use stay. -/
theorem Acorde.memalloc {x : Estado × (ℤ → Solitario)} (hx : Acorde E pid x)
    (hguard : (Llamada.memalloc pid size).sinPartir pid x.1 = true)
    {status : StatusMemoryOp} {direccion : Option ℕ}
    (hsolo : memalloc E.config concede pid size (x.2 pid) = .ok ((status, direccion), t'))
    (hs : memoryMemalloc E pid size x.1 = .ok ((status, direccion), s'))
    (hrefleja : Refleja E s' (Function.update x.2 pid t')) :
    (direccion = none ∧ SoloCabeceras (x.2 pid) t' ∧
      t'.heap.map (fun h => (h.paginas, h.allocs)) =
        (x.2 pid).heap.map fun h => (h.paginas, h.allocs)) ∨
    ∃ d h', direccion = some d ∧ t'.heap = some h' ∧ Ordenado E.config h' ∧
      SoloCabeceras (x.2 pid) t' ∧
      (∃ a ∈ h'.allocs, a.isFree = false ∧ a.direccion + 9 = d ∧ (size : ℤ) ≤ a.tamanioData) ∧
      ∀ h, (x.2 pid).heap = some h → ∀ a ∈ h.allocs, a.isFree = false → a ∈ h'.allocs := by
  rw [Llamada.sinPartir, Bool.or_eq_true, Bool.and_eq_true, decide_eq_true_iff,
    decide_eq_true_iff] at hguard
  obtain ⟨hsize, horden⟩ := hguard.resolve_left fun hno => hno rfl
  obtain ⟨hcabeceras, hpaginas⟩ := (memalloc_cabeceras _).post_of_eq hsolo
  have hmapa := hrefleja.mapa pid
  rw [Function.update_self] at hmapa
  rcases memoryMemalloc_asignada hsize hs with ⟨hno, heaps⟩ | ⟨d, hd, hasignada, hdato⟩
  · refine Or.inl ⟨(Prod.mk.inj hno).2, hcabeceras, ?_⟩
    rw [hmapa, hx.refleja.mapa pid, MismoHeap.of_heaps heaps pid]
  · obtain rfl := (Prod.mk.inj hd).2
    obtain ⟨h', hh', hpocas⟩ := hpaginas d rfl
    have hlistas := hrefleja.listas pid
    rw [Function.update_self, hh'] at hlistas
    have hantes := hx.refleja.listas pid
    have htes : Teselado E.config (paginasDe pid x.1).length (allocsDe pid x.1) ∧
        Unido (allocsDe pid x.1) := by
      rw [hantes.1, hantes.2]
      cases hh : (x.2 pid).heap with
      | none => exact ⟨.vacio _ _, List.IsChain.nil⟩
      | some h => exact ⟨(hx.orden h hh).teselado, (hx.orden h hh).unido⟩
    obtain ⟨htes', hunido'⟩ := hasignada.teselado htes.1 htes.2 hsize horden hdato
    have hdado := hasignada.dado htes.1 hsize
    rw [hlistas.1, hlistas.2] at htes'
    rw [hlistas.2] at hunido' hdado
    refine Or.inr ⟨d, h', rfl, hh', ⟨htes', hunido', hpocas⟩, hcabeceras, hdado, ?_⟩
    intro h hh a ha huso
    rw [hh] at hantes
    have hqueda := hasignada.conserva (a := a) (by rw [hantes.2]; exact ha) huso
    rw [hlistas.2] at hqueda
    exact hqueda

theorem Acorde.propio {x : Estado × (ℤ → Solitario)} {op : Llamada} {r : Respuesta}
    (hx : Acorde E op.pid x) (hguard : op.sinPartir op.pid x.1 = true)
    (hsolo : Solitario.llamar E.config concede op (x.2 op.pid) = .ok (r, t'))
    (hmodulo : Memoria.llamar E op x.1 = .ok (r, s'))
    (hrefleja : Refleja E s' (Function.update x.2 op.pid t')) :
    (∀ h', t'.heap = some h' → Ordenado E.config h') ∧
      ∀ h, (x.2 op.pid).heap = some h → ∀ a ∈ h.allocs, a.isFree = false →
        op.libera op.pid (a.direccion + 9) = false → Conserva op.pid [op] a (x.2 op.pid) t' := by
  have hquieto : t' = x.2 op.pid → (∀ h', t'.heap = some h' → Ordenado E.config h') ∧
      ∀ h, (x.2 op.pid).heap = some h → ∀ a ∈ h.allocs, a.isFree = false →
        op.libera op.pid (a.direccion + 9) = false → Conserva op.pid [op] a (x.2 op.pid) t' := by
    rintro rfl
    exact ⟨hx.orden, fun h hh a ha _ _ => .refl _ hh ha⟩
  cases op with
  | memalloc pid size =>
    obtain ⟨⟨⟨status, direccion⟩, t₁⟩, hsolo, hok⟩ := bind_eq_ok.1 hsolo
    obtain ⟨⟨⟨status', direccion'⟩, s₁⟩, hmodulo, hok'⟩ := bind_eq_ok.1 hmodulo
    cases hok
    cases hok'
    rcases hx.memalloc hguard hsolo hmodulo hrefleja with ⟨-, hcabeceras, hmapa⟩ |
      ⟨d, h', -, hh', hord, hcabeceras, -, hqueda⟩
    · have hmisma : ∀ h', t'.heap = some h' → ∃ h, (x.2 pid).heap = some h ∧
          h'.paginas = h.paginas ∧ h'.allocs = h.allocs := by
        intro h' hh'
        rw [hh'] at hmapa
        obtain ⟨h, hh, heq⟩ := Option.map_eq_some_iff.1 hmapa.symm
        exact ⟨h, hh, congrArg Prod.fst heq.symm, congrArg Prod.snd heq.symm⟩
      refine ⟨fun h' hh' => ?_, fun h hh a ha huso _ => ?_⟩
      · obtain ⟨h, hh, hpaginas, hallocs⟩ := hmisma h' hh'
        exact (hx.orden h hh).congr hpaginas hallocs
      · rw [hh] at hmapa
        obtain ⟨h', hh', heq⟩ := Option.map_eq_some_iff.1 hmapa
        obtain ⟨hpaginas, hallocs⟩ := Prod.mk.inj heq
        have hord := (hx.orden h hh).congr hpaginas hallocs
        exact .de_cabeceras hcabeceras hh' hord.teselado (hallocs ▸ ha) _
    · refine ⟨fun h'' hh'' => ?_, fun h hh a ha huso _ => ?_⟩
      · obtain rfl := Option.some.inj (hh'.symm.trans hh'')
        exact hord
      · exact .de_cabeceras hcabeceras hh' hord.teselado (hqueda h hh a ha huso) _
  | memwrite pid pos valor =>
    obtain ⟨⟨status, t₁⟩, hsolo, hok⟩ := bind_eq_ok.1 hsolo
    cases hok
    rcases (memwrite_bytes valor _).post_of_eq hsolo with ⟨-, heq⟩ | ⟨h, hh, heq⟩
    · exact hquieto heq
    · obtain rfl := (Prod.mk.inj heq).2
      refine ⟨fun h' hh' => ?_, fun h₁ hh₁ a ha huso _ => ?_⟩
      · obtain rfl := Option.some.inj hh'
        exact (hx.orden h hh).congr rfl rfl
      · obtain rfl := Option.some.inj (hh.symm.trans hh₁)
        refine ⟨_, rfl, ha, fun y hy hy' hescribe => ?_⟩
        have hfuera := hescribe _ List.mem_cons_self
        rw [Llamada.escribe, Bool.and_eq_false_iff, Bool.and_eq_false_iff,
          decide_eq_false_iff_not, decide_eq_false_iff_not, decide_eq_false_iff_not] at hfuera
        rw [bytes_de_heap hh]
        refine copy_outside _ _ _ ?_
        rcases hfuera with (hno | hno) | hno
        · exact absurd rfl hno
        · omega
        · omega
  | memread pid pos buffer =>
    obtain ⟨⟨r₁, t₁⟩, hsolo, hok⟩ := bind_eq_ok.1 hsolo
    cases hok
    exact hquieto ((memread_bytes buffer _).post_of_eq hsolo).1
  | memfree pid pos =>
    obtain ⟨⟨status, t₁⟩, hsolo, hok⟩ := bind_eq_ok.1 hsolo
    cases hok
    cases hh : (x.2 pid).heap with
    | none =>
      refine hquieto ?_
      have hsolo : memfree E.config pos (x.2 pid) = .ok (status, t') := hsolo
      unfold memfree at hsolo
      rw [hh] at hsolo
      cases hsolo
      rfl
    | some h =>
      rcases (hx.orden h hh).memfree hh hsolo with heq | ⟨h', hh', hord, hcabeceras, hqueda⟩
      · exact hquieto heq
      · refine ⟨fun h'' hh'' => ?_, fun h₁ hh₁ a ha huso hlibera => ?_⟩
        · obtain rfl := Option.some.inj (hh'.symm.trans hh'')
          exact hord
        · obtain rfl := Option.some.inj (hh.symm.trans hh₁)
          rw [Llamada.libera, Bool.and_eq_false_iff, decide_eq_false_iff_not,
            decide_eq_false_iff_not] at hlibera
          exact .de_cabeceras hcabeceras hh' hord.teselado
            (hqueda a ha huso (hlibera.resolve_left fun hno => hno rfl)) _
  | memfreeAll pid => cases hsolo

theorem Acorde.respuesta (hleal : Leal E concede) {x x' : Estado × (ℤ → Solitario)}
    (hx : Acorde E pid x) {op : Llamada} {r : Respuesta}
    (hs : acompanar E concede op x = .ok (r, x')) :
    ∃ s' t', x' = (s', Function.update x.2 op.pid t') ∧
      Solitario.llamar E.config concede op (x.2 op.pid) = .ok (r, t') ∧
      Memoria.llamar E op x.1 = .ok (r, s') ∧ Refleja E s' (Function.update x.2 op.pid t') := by
  obtain ⟨⟨r₁, t'⟩, hsolo, hs⟩ := bind_eq_ok.1 hs
  obtain ⟨⟨r₂, s'⟩, hmodulo, hs⟩ := bind_eq_ok.1 hs
  cases hs
  obtain ⟨hresp, hrefleja⟩ := (hleal.sirve op x.1 x.2 r₁ t' hx.refleja hsolo).post_of_eq hmodulo
  dsimp only at hresp hrefleja
  subst hresp
  exact ⟨s', t', rfl, hsolo, hmodulo, hrefleja⟩

/-- One call keeps the order of the blocks, and the data of those in use that it does not free. -/
theorem Acorde.paso (hleal : Leal E concede) {x x' : Estado × (ℤ → Solitario)}
    (hx : Acorde E pid x) {op : Llamada} {r : Respuesta}
    (hguard : op.sinPartir pid x.1 = true) (hs : acompanar E concede op x = .ok (r, x')) :
    Acorde E pid x' ∧ ∀ h, (x.2 pid).heap = some h → ∀ a ∈ h.allocs, a.isFree = false →
      op.libera pid (a.direccion + 9) = false → Conserva pid [op] a (x.2 pid) (x'.2 pid) := by
  obtain ⟨s', t', rfl, hsolo, hmodulo, hrefleja⟩ := hx.respuesta hleal hs
  rcases eq_or_ne op.pid pid with rfl | hotro
  · have hpropio := hx.propio hguard hsolo hmodulo hrefleja
    refine ⟨⟨hrefleja, ?_⟩, ?_⟩
    · dsimp only
      rw [Function.update_self]
      exact hpropio.1
    · dsimp only
      rw [Function.update_self]
      exact hpropio.2
  · have hmismo : Function.update x.2 op.pid t' pid = x.2 pid :=
      Function.update_of_ne hotro.symm _ _
    refine ⟨⟨hrefleja, ?_⟩, ?_⟩
    · dsimp only
      rw [hmismo]
      exact hx.orden
    · intro h hh a ha huso _
      dsimp only
      rw [hmismo]
      exact .refl _ hh ha

theorem Conserva.trans {op : Llamada} {ops : List Llamada} {t'' : Solitario}
    (h : Conserva pid [op] a t t') (h' : Conserva pid ops a t' t'') :
    Conserva pid (op :: ops) a t t'' := by
  obtain ⟨h₁, hh₁, -, hbytes₁⟩ := h
  obtain ⟨h₂, hh₂, ha, hbytes₂⟩ := h'
  refine ⟨h₂, hh₂, ha, fun y hy hy' hno => ?_⟩
  rw [hbytes₂ y hy hy' fun op hop => hno op (List.mem_cons_of_mem _ hop), bytes_de_heap hh₁]
  exact hbytes₁ y hy hy' fun op' hop' =>
    hno op' (List.mem_cons.2 (Or.inl (List.mem_singleton.1 hop')))

def juntosInicial (E : Entorno) (basura : ℕ → Pagina) : Estado × (ℤ → Solitario) :=
  (inicializarMemoria E.config basura, fun _ => Solitario.inicial)

/-- A run of calls that the carpinchos alone would be answered too, and in which `pid` cuts first
blocks only. -/
def Juntos (E : Entorno) (concede : ℤ → List ℤ → ℤ → Bool) (pid : ℤ) :
    Estado × (ℤ → Solitario) → List Llamada → Estado × (ℤ → Solitario) → Prop :=
  Reaches (acompanar E concede) fun x op => op.sinPartir pid x.1 = true

theorem Acorde.inicial (hleal : Leal E concede) (basura : ℕ → Pagina) (pid : ℤ) :
    Acorde E pid (juntosInicial E basura) :=
  ⟨inicializarMemoria_refleja hleal.entradas basura, fun _ hno => by cases hno⟩

/-- A run keeps the order of the blocks, and the data of a block that it does not free. -/
theorem Acorde.corrida (hleal : Leal E concede) {x x' : Estado × (ℤ → Solitario)}
    {ops : List Llamada} (hr : Juntos E concede pid x ops x') (hx : Acorde E pid x) :
    Acorde E pid x' ∧ ∀ h, (x.2 pid).heap = some h → ∀ a ∈ h.allocs, a.isFree = false →
      (∀ op ∈ ops, op.libera pid (a.direccion + 9) = false) →
        Conserva pid ops a (x.2 pid) (x'.2 pid) := by
  induction hr with
  | nil x => exact ⟨hx, fun h hh a ha _ _ => .refl _ hh ha⟩
  | cons hguard hs _ ih =>
    obtain ⟨hx', hpaso⟩ := hx.paso hleal hguard hs
    refine ⟨(ih hx').1, fun h hh a ha huso hno => ?_⟩
    have hprimero := hpaso h hh a ha huso (hno _ List.mem_cons_self)
    obtain ⟨h', hh', ha', -⟩ := id hprimero
    exact hprimero.trans ((ih hx').2 h' hh' a ha' huso fun op hop =>
      hno op (List.mem_cons_of_mem _ hop))

theorem Acorde.dado (hleal : Leal E concede) {x x' : Estado × (ℤ → Solitario)}
    (hx : Acorde E pid x) {direccion : ℕ}
    (hguard : (Llamada.memalloc pid size).sinPartir pid x.1 = true)
    (hs : acompanar E concede (.memalloc pid size) x = .ok (⟨.exito, some direccion, none⟩, x')) :
    Acorde E pid x' ∧ ∃ h a, (x'.2 pid).heap = some h ∧ a ∈ h.allocs ∧ a.isFree = false ∧
      a.direccion + 9 = direccion ∧ (size : ℤ) ≤ a.tamanioData := by
  refine ⟨(hx.paso hleal hguard hs).1, ?_⟩
  obtain ⟨s', t', rfl, hsolo, hmodulo, hrefleja⟩ := hx.respuesta hleal hs
  obtain ⟨⟨⟨status, d⟩, t₁⟩, hsolo, hok⟩ := bind_eq_ok.1 hsolo
  obtain ⟨⟨⟨status', d'⟩, s₁⟩, hmodulo, hok'⟩ := bind_eq_ok.1 hmodulo
  cases hok
  cases hok'
  dsimp only
  rw [show (Llamada.memalloc pid size).pid = pid from rfl, Function.update_self]
  rcases hx.memalloc hguard hsolo hmodulo hrefleja with ⟨hno, -⟩ |
    ⟨d, h', hd, hh', -, -, ⟨a, ha, huso, hdir, htamanio⟩, -⟩
  · cases hno
  · cases hd
    exact ⟨h', a, hh', ha, huso, hdir, htamanio⟩

theorem Acorde.escrito (hleal : Leal E concede) {x x' : Estado × (ℤ → Solitario)}
    (hx : Acorde E pid x) (hh : (x.2 pid).heap = some h) (ha : a ∈ h.allocs) {pos : ℕ}
    {valor : List UInt8} (hcubre : a.cubre pos valor.length) {r : Respuesta}
    (hs : acompanar E concede (.memwrite pid pos valor) x = .ok (r, x')) :
    Acorde E pid x' ∧ ∃ h', (x'.2 pid).heap = some h' ∧ a ∈ h'.allocs ∧
      ∀ i (hi : i < valor.length), h'.bytes (pos + i) = valor[i] := by
  refine ⟨(hx.paso hleal rfl hs).1, ?_⟩
  obtain ⟨s', t', rfl, hsolo, -, -⟩ := hx.respuesta hleal hs
  obtain ⟨⟨status, t₁⟩, hsolo, hok⟩ := bind_eq_ok.1 hsolo
  cases hok
  dsimp only
  rw [show (Llamada.memwrite pid pos valor).pid = pid from rfl, Function.update_self]
  obtain ⟨h', hh', hallocs, -, hbytes⟩ := (hx.orden h hh).memwrite_exito hh ha hcubre hsolo
  exact ⟨h', hh', hallocs ▸ ha, hbytes⟩

theorem Acorde.leido (hleal : Leal E concede) {x x' : Estado × (ℤ → Solitario)}
    (hx : Acorde E pid x) (hh : (x.2 pid).heap = some h) (ha : a ∈ h.allocs) {pos : ℕ}
    {buffer : List UInt8} (hcubre : a.cubre pos buffer.length) {r : Respuesta}
    (hs : acompanar E concede (.memread pid pos buffer) x = .ok (r, x')) :
    r = ⟨.exito, none, some (slice h.bytes pos buffer.length)⟩ := by
  obtain ⟨s', t', rfl, hsolo, -, -⟩ := hx.respuesta hleal hs
  obtain ⟨r₁, hsolo, hok⟩ := bind_eq_ok.1 hsolo
  have hr₁ := (hx.orden h hh).memread_exito hh ha hcubre hsolo
  cases hok
  rw [hr₁]

/-- What a carpincho writes to a block that it has been given is what it reads there, whatever
else it and the others do, until it frees the block or writes there again. -/
theorem memread_tras_memwrite (hleal : Leal E concede) (basura : ℕ → Pagina)
    {antes medio medio' : List Llamada} {x₁ x₂ x₃ x₄ x₅ x₆ : Estado × (ℤ → Solitario)}
    {size direccion pos pos' : ℕ} {valor buffer : List UInt8} {r r' : Respuesta}
    (hantes : Juntos E concede pid (juntosInicial E basura) antes x₁)
    (hprimera : (Llamada.memalloc pid size).sinPartir pid x₁.1 = true)
    (hmemalloc : acompanar E concede (.memalloc pid size) x₁ =
      .ok (⟨.exito, some direccion, none⟩, x₂))
    (hmedio : Juntos E concede pid x₂ medio x₃)
    (hsigue : ∀ op ∈ medio, op.libera pid direccion = false)
    (hmemwrite : acompanar E concede (.memwrite pid pos valor) x₃ = .ok (r, x₄))
    (hescribe : direccion ≤ pos ∧ pos + valor.length ≤ direccion + size)
    (hmedio' : Juntos E concede pid x₄ medio' x₅)
    (hsigue' : ∀ op ∈ medio', op.libera pid direccion = false)
    (hmemread : acompanar E concede (.memread pid pos' buffer) x₅ = .ok (r', x₆))
    (hlee : direccion ≤ pos' ∧ pos' + buffer.length ≤ direccion + size) :
    ∃ leidos, r' = ⟨.exito, none, some leidos⟩ ∧ leidos.length = buffer.length ∧
      ∀ y, pos ≤ y → y < pos + valor.length → pos' ≤ y → y < pos' + buffer.length →
        (∀ op ∈ medio', op.escribe pid y = false) → leidos[y - pos']? = valor[y - pos]? := by
  obtain ⟨hx₁, -⟩ := (Acorde.inicial hleal basura pid).corrida hleal hantes
  obtain ⟨hx₂, h₂, a, hh₂, ha₂, huso, rfl, htamanio⟩ := hx₁.dado hleal hprimera hmemalloc
  obtain ⟨hx₃, hmedio⟩ := hx₂.corrida hleal hmedio
  obtain ⟨h₃, hh₃, ha₃, -⟩ := hmedio h₂ hh₂ a ha₂ huso hsigue
  have hstop := stop_bloques ((hx₃.orden h₃ hh₃).teselado.datos a ha₃)
  obtain ⟨hx₄, h₄, hh₄, ha₄, hescrito⟩ :=
    hx₃.escrito hleal hh₃ ha₃ ⟨hescribe.1, by omega⟩ hmemwrite
  obtain ⟨hx₅, hmedio'⟩ := hx₄.corrida hleal hmedio'
  obtain ⟨h₅, hh₅, ha₅, hqueda⟩ := hmedio' h₄ hh₄ a ha₄ huso hsigue'
  refine ⟨_, hx₅.leido hleal hh₅ ha₅ ⟨hlee.1, by omega⟩ hmemread, length_slice _ _ _, ?_⟩
  intro y hy hy' hleida hleida' hno
  rw [List.getElem?_eq_getElem (by rw [length_slice]; omega), getElem_slice,
    List.getElem?_eq_getElem (by omega), Nat.add_sub_cancel' hleida,
    hqueda y (by omega) (by omega) hno, bytes_de_heap hh₄, ← hescrito (y - pos) (by omega),
    Nat.add_sub_cancel' hy]

/-- A second carpincho takes the frames twice, and the first one writes elsewhere in between. -/
theorem memread_tras_memwrite_dos :
    ∃ (x₃ x₄ x₅ x₆ : Estado × (ℤ → Solitario)) (r : Respuesta) (leidos : List UInt8),
      Juntos (entornoFiel configHeap) (fun _ _ _ => true) 1
        (juntosInicial (entornoFiel configHeap) fun _ => ⟨0, 0, 0, false, false, false, 0, false⟩)
        [.memalloc 1 200, .memalloc 2 220] x₃ ∧
      acompanar (entornoFiel configHeap) (fun _ _ _ => true) (.memwrite 1 12 [7, 8, 9]) x₃ =
        .ok (r, x₄) ∧
      Juntos (entornoFiel configHeap) (fun _ _ _ => true) 1 x₄
        [.memalloc 1 40, .memalloc 2 100, .memwrite 1 13 [5]] x₅ ∧
      acompanar (entornoFiel configHeap) (fun _ _ _ => true) (.memread 1 11 [0, 0, 0, 0]) x₅ =
        .ok (⟨.exito, none, some leidos⟩, x₆) ∧
      leidos[1]? = some 7 ∧ leidos[3]? = some 9 := by
  have hcorrida : returns (acompanar (entornoFiel configHeap) (fun _ _ _ => true) (.memalloc 1 200)
      (juntosInicial (entornoFiel configHeap) fun _ => ⟨0, 0, 0, false, false, false, 0, false⟩))
      (fun r => decide (r.1 = ⟨.exito, some 9, none⟩) &&
        (guardedRun (acompanar (entornoFiel configHeap) fun _ _ _ => true)
          (fun x op => op.sinPartir 1 x.1) [.memalloc 2 220] r.2).any fun x₃ =>
        returns (acompanar (entornoFiel configHeap) (fun _ _ _ => true) (.memwrite 1 12 [7, 8, 9])
          x₃) fun r =>
        (guardedRun (acompanar (entornoFiel configHeap) fun _ _ _ => true)
          (fun x op => op.sinPartir 1 x.1) [.memalloc 1 40, .memalloc 2 100, .memwrite 1 13 [5]]
          r.2).any fun x₅ =>
        (acompanar (entornoFiel configHeap) (fun _ _ _ => true) (.memread 1 11 [0, 0, 0, 0])
          x₅).isOk) = true := by
    decide +kernel
  obtain ⟨⟨r₂, x₂⟩, hmemalloc, hcorrida⟩ := exists_of_returns hcorrida
  rw [Bool.and_eq_true, decide_eq_true_iff] at hcorrida
  obtain ⟨rfl, hcorrida⟩ := hcorrida
  obtain ⟨x₃, hmedio, hcorrida⟩ := (Option.any_eq_true _ _).1 hcorrida
  obtain ⟨⟨r, x₄⟩, hmemwrite, hcorrida⟩ := exists_of_returns hcorrida
  obtain ⟨x₅, hmedio', hcorrida⟩ := (Option.any_eq_true _ _).1 hcorrida
  obtain ⟨⟨r', x₆⟩, hmemread⟩ := exists_of_isOk hcorrida
  obtain ⟨leidos, rfl, hlen, hleidos⟩ := memread_tras_memwrite
    (entornoFiel_leal configHeap rfl (by decide))
    (fun _ => ⟨0, 0, 0, false, false, false, 0, false⟩) (.nil _) (by decide +kernel) hmemalloc
    (reaches_of_guardedRun hmedio) (by decide) hmemwrite (by decide)
    (reaches_of_guardedRun hmedio') (by decide) hmemread (by decide)
  refine ⟨x₃, x₄, x₅, x₆, r, leidos, .cons (by decide +kernel) hmemalloc
    (reaches_of_guardedRun hmedio), hmemwrite, reaches_of_guardedRun hmedio', hmemread, ?_, ?_⟩
  · exact hleidos 12 (by decide) (by decide) (by decide) (by decide) (by decide)
  · exact hleidos 14 (by decide) (by decide) (by decide) (by decide) (by decide)

end Juntos

end Carpinchos.Memoria
