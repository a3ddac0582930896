import Carpinchos.Memoria.Reflejo
import Carpinchos.Memoria.SwampFiel

/-!
# Carpinchos that share the module

Each call of the module does to the view of its carpincho what the machine of a carpincho alone
does, and leaves the views of the others as they are. So the carpinchos that use the module
together are answered as if each of them were alone, whatever is evicted for the others in between.
-/

namespace Carpinchos.Memoria

open Outcome Bytes Solitario Runs Parties

section Vista

variable {α : Type} {E : Entorno} {f : ℤ → Solitario} {pid : ℤ} {s : Estado} {t : Solitario}
  {h : HeapLlano} {pagina : ℕ → Estado → Except Falla ℕ} {pos : ℕ}

/-- The carpincho sees `t`, and the others see what `f` gives them. -/
def Ve (E : Entorno) (f : ℤ → Solitario) (pid : ℤ) (s : Estado) (t : Solitario) : Prop :=
  Refleja E s (Function.update f pid t)

/-- Where the machine of the carpincho returns, the module returns the same or stops. -/
def Imita (E : Entorno) (f : ℤ → Solitario) (pid : ℤ) (x : Except Falla (α × Estado))
    (y : Except Falla (α × Solitario)) : Prop :=
  Agree x y (fun r r' => r.1 = r'.1 ∧ Ve E f pid r.2 r'.2) Detenida fun _ => True

def ImitaEfecto (E : Entorno) (f : ℤ → Solitario) (pid : ℤ) (x : Except Falla Estado)
    (y : Except Falla Solitario) : Prop :=
  Agree x y (Ve E f pid) Detenida fun _ => True

theorem Ve.carpincho (hv : Ve E f pid s t) (hh : t.heap = some h) :
    ∃ c, getCarpincho pid s = some c ∧ c.paginas.length = h.paginas ∧ c.allocs = h.allocs := by
  obtain ⟨n, g, -, -, hf⟩ := hv
  have hpid := congrFun hf pid
  rw [Function.update_self] at hpid
  obtain ⟨c, hc, hpaginas, hallocs, -⟩ := exists_of_vistaDe (hpid ▸ hh)
  exact ⟨c, hc, hpaginas, hallocs⟩

theorem Ve.ausente (hv : Ve E f pid s t) (hh : t.heap = none) : getCarpincho pid s = none := by
  obtain ⟨n, g, -, -, hf⟩ := hv
  have hpid := congrFun hf pid
  rw [Function.update_self] at hpid
  exact Option.map_eq_none_iff.1 (hpid ▸ hh)

theorem Ve.consultas (hv : Ve E f pid s t) : consultasDe pid s.mensajes = t.consultas := by
  obtain ⟨n, g, -, -, hf⟩ := hv
  have hpid := congrFun hf pid
  rw [Function.update_self] at hpid
  rw [hpid]
  rfl

theorem Ve.setAllocs (hv : Ve E f pid s t) (hh : t.heap = some h) (allocs : List Alloc) :
    Ve E f pid (Memoria.setAllocs pid allocs s) (conHeap (conAllocs allocs h) t) := by
  have hr := Refleja.setAllocs hv (by rw [Function.update_self, hh]) allocs
  rw [Function.update_self, Function.update_idem] at hr
  exact hr

theorem Ve.preguntado (hv : Ve E f pid s t) (cantPag : ℤ) :
    Ve E f pid (Memoria.preguntado pid cantPag s)
      { t with consultas := t.consultas ++ [cantPag] } := by
  have hr := Refleja.preguntado hv pid cantPag
  rw [Function.update_self, Function.update_idem] at hr
  exact hr

theorem Ve.createCarpincho (hv : Ve E f pid s t) (hpid : pid ≠ 0) (hh : t.heap = none) :
    Ve E f pid (Memoria.createCarpincho pid s) (conHeap vacio t) := by
  have hr := Refleja.createCarpincho hv hpid (by rw [Function.update_self, hh])
  rw [Function.update_self, Function.update_idem] at hr
  exact hr

variable (hlru : E.config.algoritmoReemplazoMmu = .lru)
include hlru

theorem Ve.createPagina (hv : Ve E f pid s t) (hh : t.heap = some h) :
    Spec (createPagina E pid s)
      (fun r => Ve E f pid r.2 (conHeap { h with paginas := h.paginas + 1 } t)) Detenida := by
  have hr := Refleja.createPagina hlru hv (by rw [Function.update_self, hh])
  rw [Function.update_self, Function.update_idem] at hr
  exact hr

theorem Ve.crearPaginas (n : ℕ) : ∀ {s t h}, Ve E f pid s t → t.heap = some h →
    Spec (crearPaginas E pid n s)
      (Ve E f pid · (conHeap { h with paginas := h.paginas + n } t)) Detenida := by
  induction n with
  | zero =>
    intro s t h hv hh
    rw [Nat.add_zero, conHeap, ← hh]
    exact hv
  | succ n ih =>
    intro s t h hv hh
    refine (hv.createPagina hlru hh).bind fun r hr => ?_
    refine (ih hr rfl).mono (fun s' hs' => ?_) fun _ he => he
    rw [Nat.add_assoc, Nat.add_comm 1 n] at hs'
    exact hs'

variable (hswamp : E.SwampFiel)
include hswamp

theorem Ve.escribirAcciones (hpag : DaPagina E pid pagina) (hv : Ve E f pid s t)
    {valor : List UInt8} :
    ImitaEfecto E f pid
      (Memoria.escribirAcciones E pagina valor (acciones E.config pos valor.length) 0 s)
      (escribir E.config pos valor t) := by
  unfold escribir heapLlano
  split
  · next h hh =>
    rw [ok_bind]
    split
    · next halcanza =>
      have hr := Refleja.escribirAcciones hlru hswamp hpag hv
        (by rw [Function.update_self, hh]) halcanza
      rw [Function.update_self, Function.update_idem] at hr
      exact agree_right_ok.2 hr
    · exact agree_of_right trivial
  · exact agree_of_right trivial

theorem Ve.leerAcciones (hpag : DaPagina E pid pagina) (hv : Ve E f pid s t)
    (hh : t.heap = some h) {buffer : List UInt8}
    (halcanza : alcanza E.config h pos buffer.length = true) :
    Spec (Memoria.leerAcciones E pagina (acciones E.config pos buffer.length) 0 buffer s)
      (fun r => r.1 = slice h.bytes pos buffer.length ∧ Ve E f pid r.2 t) Detenida :=
  Refleja.leerAcciones hlru hswamp hpag hv (by rw [Function.update_self, hh]) halcanza

end Vista

section Llamadas

variable {E : Entorno} {f : ℤ → Solitario} {pid : ℤ} {s : Estado} {t : Solitario}
  {h : HeapLlano} {concede : ℤ → List ℤ → ℤ → Bool}

theorem carpinchoDe_heapLlano (hv : Ve E f pid s t) :
    Agree (carpinchoDe pid s) (heapLlano t)
      (fun c h => t.heap = some h ∧ c.paginas.length = h.paginas ∧ c.allocs = h.allocs)
      Detenida fun _ => True := by
  unfold heapLlano
  split
  · next h hh =>
    obtain ⟨c, hc, hpaginas, hallocs⟩ := hv.carpincho hh
    rw [carpinchoDe, hc]
    exact ⟨hh, hpaginas, hallocs⟩
  · exact agree_of_right trivial

/-- SWAmP answers a carpincho by what that carpincho has asked for. -/
def Concede (E : Entorno) (concede : ℤ → List ℤ → ℤ → Bool) : Prop :=
  ∀ historia pid cantPag, decide (E.puedeEscribirSwamp historia pid cantPag ≠ 0) =
    concede pid (consultasDe pid historia) cantPag

theorem checkSizeSwamp_imita (hconcede : Concede E concede) (hv : Ve E f pid s t) (cantPag : ℤ) :
    (checkSizeSwamp E pid cantPag s).1 = (preguntar concede pid cantPag t).1 ∧
      Ve E f pid (checkSizeSwamp E pid cantPag s).2 (preguntar concede pid cantPag t).2 := by
  refine ⟨?_, hv.preguntado cantPag⟩
  rw [checkSizeSwamp, preguntar, hconcede, hv.consultas]

theorem solicitarPaginas_imita (hconcede : Concede E concede) (hv : Ve E f pid s t)
    (espacio size : ℤ) :
    Imita E f pid (solicitarPaginas E pid espacio size s)
      (solicitar E.config concede pid espacio size t) := by
  refine Agree.bind_same _ fun cantPag => ?_
  obtain ⟨hpuede, hv'⟩ := checkSizeSwamp_imita hconcede hv cantPag
  dsimp only
  rw [hpuede]
  exact ⟨rfl, hv'⟩

theorem checkAlloc_imita (hconcede : Concede E concede) (hv : Ve E f pid s t)
    {c : Carpincho} (hc : getCarpincho pid s = some c)
    (hpaginas : c.paginas.length = h.paginas) (hallocs : c.allocs = h.allocs) (size : ℤ) :
    Imita E f pid (checkAlloc E c size s) (chequear E.config concede pid h size t) := by
  obtain ⟨rfl, -⟩ := getCarpincho_pid hc
  unfold checkAlloc chequear
  rw [hallocs, hpaginas]
  refine planAlloc_agree (fun r _ => ⟨rfl, hv⟩) fun libre => ?_
  exact solicitarPaginas_imita hconcede hv libre size

theorem planificarMemalloc_imita (hconcede : Concede E concede) (hv : Ve E f pid s t) (size : ℕ) :
    Imita E f pid (planificarMemalloc E pid size s) (planificar E.config concede pid size t) := by
  unfold planificar
  split
  · next hh =>
    unfold planificarMemalloc
    rw [hv.ausente hh]
    dsimp only
    split
    · exact agree_of_right trivial
    · next hpid =>
      refine Agree.bind_same _ fun cantPag => ?_
      obtain ⟨hpuede, hv'⟩ := checkSizeSwamp_imita hconcede hv cantPag
      rw [hpuede]
      split
      · exact ⟨rfl, hv'.createCarpincho hpid hh⟩
      · exact ⟨rfl, hv'⟩
  · next h hh =>
    obtain ⟨c, hc, hpaginas, hallocs⟩ := hv.carpincho hh
    unfold planificarMemalloc
    rw [hc]
    exact checkAlloc_imita hconcede hv hc hpaginas hallocs (aInt size)

theorem length_metadataDe (allocs : List Alloc) (indice : ℕ) (isFree : Bool) :
    (metadataDe allocs indice isFree).length = 9 := by
  simp [metadataDe, heapMetadata]

theorem asignarEnPaginaConEspacio_imita (hv : Ve E f pid s t) (size : ℕ) :
    Imita E f pid (memallocAsignarEnPaginaConEspacio pid size s) (asignarAlFinal size t) := by
  refine (carpinchoDe_heapLlano hv).bind fun c h hc => ?_
  obtain ⟨hh, -, hallocs⟩ := hc
  rw [hallocs]
  exact ⟨rfl, hv.setAllocs hh _⟩

theorem obtenerIndiceDeAlloc_ok {allocs : List Alloc} {direccion indice : ℕ}
    (h : obtenerIndiceDeAlloc allocs direccion = .ok indice) :
    ∃ a ∈ allocs, a.direccion = direccion := by
  unfold obtenerIndiceDeAlloc at h
  split at h
  · next hfind =>
    have halguno := (List.findIdx?_isSome.symm.trans (congrArg Option.isSome hfind))
    obtain ⟨a, ha, hdireccion⟩ := List.any_eq_true.1 halguno
    exact ⟨a, ha, of_decide_eq_true hdireccion⟩
  · cases h

theorem persistirMetadata_spec {cfg : Config} (unAlloc : Alloc) (t : Solitario) :
    Spec (persistirMetadata cfg unAlloc t)
      (fun t' => ∃ h a metadata, t.heap = some h ∧ (0 < h.paginas ∧ h.paginas < 2 ^ 31) ∧
        a ∈ h.allocs ∧ metadata.length = 9 ∧
        t' = conHeap (conBytes (copy h.bytes a.direccion metadata) h) t)
      fun _ => True := by
  refine spec_of_ok fun t' ht' => ?_
  obtain ⟨h, hheap, ht'⟩ := bind_eq_ok.1 ht'
  obtain ⟨indice, hindice, ht'⟩ := bind_eq_ok.1 ht'
  obtain ⟨h', hheap', hescrito⟩ := bind_eq_ok.1 ht'
  rw [hheap] at hheap'
  obtain rfl := Except.ok.inj hheap'
  obtain ⟨a, ha, hdireccion⟩ := obtenerIndiceDeAlloc_ok hindice
  split at hescrito
  · next halcanza =>
    rw [length_metadataDe] at halcanza
    refine ⟨h, a, metadataDe h.allocs indice unAlloc.isFree, heapLlano_eq_ok.1 hheap,
      alcanza_pagina halcanza (i := 0) (by omega), ha, length_metadataDe _ _ _, ?_⟩
    rw [hdireccion]
    exact (Except.ok.inj hescrito).symm
  · cases hescrito

/-- Where a page remains in use, nothing is compacted. -/
theorem compactarMientras_imita (hv : Ve E f pid s t) (hh : t.heap = some h)
    (hpaginas : 0 < h.paginas) (fuel : ℕ) :
    Imita E f pid (compactarMientras E pid (fuel + 1) s >>= fun s => .ok (StatusMemoryOp.exito, s))
      (do
        let deLaPagina ← allocsDePagina E.config 0 h.allocs
        if todosLosAllocsEstanLibres deLaPagina then .error .memoriaLiberada
        else .ok (.exito, t)) := by
  obtain ⟨c, hc, hlen, hallocs⟩ := hv.carpincho hh
  obtain ⟨pag, resto, hlista⟩ : ∃ pag resto, c.paginas = pag :: resto :=
    List.exists_cons_of_length_pos (by omega)
  rw [compactarMientras, compactar, carpinchoDe, hc]
  dsimp only
  rw [ok_bind, hlista, hallocs]
  dsimp only
  rw [bind_assoc, bind_assoc]
  refine Agree.bind_same _ fun deLaPagina => ?_
  split
  · exact agree_of_right trivial
  · exact ⟨rfl, hv⟩

variable (hlru : E.config.algoritmoReemplazoMmu = .lru)
include hlru

theorem asignarEnPaginasNuevas_imita (hv : Ve E f pid s t) (size : ℕ) :
    Imita E f pid (memallocAsignarEnPaginasNuevas E pid size s)
      (asignarConPaginas E.config size t) := by
  refine (carpinchoDe_heapLlano hv).bind fun c h hc => ?_
  obtain ⟨hh, hpaginas, hallocs⟩ := hc
  rw [hallocs, hpaginas]
  refine Agree.bind_same _ fun espacioOcupado => ?_
  refine Agree.bind_same _ fun espacioLibre => ?_
  refine Agree.bind_same _ fun cantPag => ?_
  rw [asignarPaginasCarpincho, bind_assoc]
  refine Agree.bind_left (hv.crearPaginas hlru cantPag.toNat hh) fun s' hv' => ?_
  rw [bind_assoc]
  refine Agree.bind_same _ fun _ => ?_
  exact asignarEnPaginaConEspacio_imita hv' size

variable (hswamp : E.SwampFiel)
include hswamp

theorem persistirMetadataHeap_imita (hv : Ve E f pid s t) (unAlloc : Alloc) :
    ImitaEfecto E f pid (persistirMetadataHeap E pid unAlloc s)
      (persistirMetadata E.config unAlloc t) := by
  refine (carpinchoDe_heapLlano hv).bind fun c h hc => ?_
  obtain ⟨-, -, hallocs⟩ := hc
  rw [hallocs]
  refine Agree.bind_same _ fun indice => ?_
  unfold escribirHeapMemoriaFisica
  rw [← length_metadataDe h.allocs indice unAlloc.isFree]
  exact hv.escribirAcciones hlru hswamp (paginaPorNumero_daPagina E pid)

theorem asignarEnHeapLibre_imita (hv : Ve E f pid s t) (size : ℕ) :
    Imita E f pid (memallocAsignarEnHeapLibre E pid size s) (asignarEnHeap E.config size t) := by
  refine (carpinchoDe_heapLlano hv).bind fun c h hc => ?_
  obtain ⟨hh, -, hallocs⟩ := hc
  rw [hallocs]
  refine Agree.bind_same _ fun asignado => ?_
  have hv' := hv.setAllocs hh asignado.allocs
  dsimp only
  cases asignado.nuevoAlloc with
  | none => exact ⟨rfl, hv'⟩
  | some nuevoAlloc =>
    refine (persistirMetadataHeap_imita hlru hswamp hv' nuevoAlloc).bind fun s' t' hv'' => ?_
    exact ⟨rfl, hv''⟩

theorem asignarMemalloc_imita (hv : Ve E f pid s t) (size : ℕ)
    (checkStatus : CheckAllocRespuesta) :
    Imita E f pid (asignarMemalloc E pid size checkStatus s)
      (asignar E.config size checkStatus t) := by
  have hdireccion : ∀ {x : Except Falla (ℕ × Estado)} {y : Except Falla (ℕ × Solitario)},
      Imita E f pid x y → Imita E f pid (x >>= fun r => .ok (some r.1, r.2))
        (y >>= fun r => .ok (some r.1, r.2)) :=
    fun himita => himita.bind fun _ _ hr => ⟨congrArg some hr.1, hr.2⟩
  cases checkStatus with
  | allocSinEspacio => exact ⟨rfl, hv⟩
  | allocHeap => exact hdireccion (asignarEnHeapLibre_imita hlru hswamp hv size)
  | allocPagina => exact hdireccion (asignarEnPaginaConEspacio_imita hv size)
  | allocSolicitarPagina => exact hdireccion (asignarEnPaginasNuevas_imita hlru hv size)

theorem persistirDireccion_imita (hv : Ve E f pid s t) (direccion : ℕ) :
    ImitaEfecto E f pid (persistirDireccion E pid direccion s)
      (persistirEn E.config direccion t) := by
  refine (carpinchoDe_heapLlano hv).bind fun c h hc => ?_
  obtain ⟨-, -, hallocs⟩ := hc
  rw [hallocs]
  cases obtenerAllocDeUnCarpincho h.allocs direccion with
  | none => exact agree_of_right trivial
  | some alloc => exact persistirMetadataHeap_imita hlru hswamp hv alloc

theorem memoryMemalloc_imita (hconcede : Concede E concede) (hv : Ve E f pid s t) (size : ℕ) :
    Imita E f pid (memoryMemalloc E pid size s) (memalloc E.config concede pid size t) := by
  refine (planificarMemalloc_imita hconcede hv size).bind fun r r' hr => ?_
  obtain ⟨checkStatus, s₁⟩ := r
  obtain ⟨checkStatus', t₁⟩ := r'
  obtain ⟨rfl, hv₁⟩ := hr
  refine (asignarMemalloc_imita hlru hswamp hv₁ size checkStatus).bind fun r r' hr => ?_
  obtain ⟨direccion, s₂⟩ := r
  obtain ⟨direccion', t₂⟩ := r'
  obtain ⟨rfl, hv₂⟩ := hr
  cases direccion with
  | none => exact ⟨rfl, hv₂⟩
  | some direccion =>
    exact (persistirDireccion_imita hlru hswamp hv₂ direccion).bind fun _ _ hv₃ => ⟨rfl, hv₃⟩

theorem memoryMemwrite_imita (hv : Ve E f pid s t) (pos : ℕ) (valor : List UInt8) :
    Imita E f pid (memoryMemwrite E pid pos valor s) (memwrite E.config pos valor t) := by
  unfold memwrite
  split
  · next hh =>
    rw [memoryMemwrite, hv.ausente hh]
    exact ⟨rfl, hv⟩
  · next h hh =>
    obtain ⟨c, hc, hpaginas, hallocs⟩ := hv.carpincho hh
    unfold memoryMemwrite
    rw [hc]
    dsimp only
    rw [hpaginas, hallocs]
    split
    · cases obtenerAllocDeUnCarpincho h.allocs pos with
      | none => exact agree_of_right trivial
      | some alloc =>
        dsimp only
        split
        · exact ⟨rfl, hv⟩
        · refine Agree.bind_same _ fun _ => ?_
          exact (hv.escribirAcciones hlru hswamp (paginaPorIndice_daPagina E pid)).bind
            fun _ _ hv' => ⟨rfl, hv'⟩
    · exact ⟨rfl, hv⟩

theorem memoryMemread_imita (hv : Ve E f pid s t) (pos : ℕ) (buffer : List UInt8) :
    Imita E f pid (memoryMemread E pid pos buffer s) (memread E.config pos buffer t) := by
  unfold memread
  split
  · next hh =>
    rw [memoryMemread, hv.ausente hh]
    exact ⟨rfl, hv⟩
  · next h hh =>
    obtain ⟨c, hc, hpaginas, hallocs⟩ := hv.carpincho hh
    unfold memoryMemread
    rw [hc]
    dsimp only
    rw [hpaginas, hallocs]
    split
    · refine Agree.bind_same _ fun _ => ?_
      split
      · next halcanza =>
        refine agree_right_ok.2 ((hv.leerAcciones hlru hswamp (paginaPorIndice_daPagina E pid) hh
          halcanza).bind fun r hr => ?_)
        exact ⟨congrArg (Prod.mk _) hr.1, hr.2⟩
      · exact agree_of_right trivial
    · exact ⟨rfl, hv⟩

theorem memoryMemfree_imita (hv : Ve E f pid s t) (pos : ℕ) :
    Imita E f pid (memoryMemfree E pid pos s) (memfree E.config pos t) := by
  unfold memfree
  split
  · next hh =>
    rw [memoryMemfree, hv.ausente hh]
    exact ⟨rfl, hv⟩
  · next h hh =>
    obtain ⟨c, hc, hpaginas, hallocs⟩ := hv.carpincho hh
    unfold memoryMemfree
    rw [hc]
    dsimp only
    rw [hpaginas, hallocs]
    split
    · refine Agree.bind_same _ fun liberado => ?_
      cases liberado with
      | none => exact ⟨rfl, hv⟩
      | some r =>
        obtain ⟨allocs, alloc⟩ := r
        have hv' := hv.setAllocs hh allocs
        refine ((persistirMetadataHeap_imita hlru hswamp hv' alloc).and_right
          (persistirMetadata_spec _ _)).bind fun s₁ t₁ hr => ?_
        obtain ⟨hv₁, h₁, a, metadata, hh₁, hpos, -, -, rfl⟩ := hr
        obtain rfl := Option.some.inj hh₁
        exact compactarMientras_imita hv₁ rfl hpos.1 allocs.length
    · exact ⟨rfl, hv⟩

/-- The module serves each carpincho as if it were alone. -/
theorem llamar_sirve (hconcede : Concede E concede) :
    Parties.Serves Llamada.pid (Memoria.llamar E) (Solitario.llamar E.config concede) (Refleja E)
      Detenida := by
  intro op s f o t hr halone
  have hv : Ve E f op.pid s (f op.pid) := by
    rw [Ve, Function.update_eq_self]
    exact hr
  suffices hop : Imita E f op.pid (Memoria.llamar E op s)
      (Solitario.llamar E.config concede op (f op.pid)) by
    rw [halone] at hop
    exact agree_right_ok.1 hop
  cases op with
  | memalloc pid size =>
    refine (memoryMemalloc_imita hlru hswamp hconcede hv size).bind fun r r' hr => ?_
    exact ⟨by dsimp only; rw [hr.1], hr.2⟩
  | memwrite pid pos valor =>
    refine (memoryMemwrite_imita hlru hswamp hv pos valor).bind fun r r' hr => ?_
    exact ⟨by dsimp only; rw [hr.1], hr.2⟩
  | memread pid pos buffer =>
    refine (memoryMemread_imita hlru hswamp hv pos buffer).bind fun r r' hr => ?_
    exact ⟨by dsimp only; rw [hr.1], hr.2⟩
  | memfree pid pos =>
    refine (memoryMemfree_imita hlru hswamp hv pos).bind fun r r' hr => ?_
    exact ⟨by dsimp only; rw [hr.1], hr.2⟩
  | memfreeAll pid => exact agree_of_right trivial

end Llamadas

section Corridas

variable {E E' : Entorno} {concede concede' : ℤ → List ℤ → ℤ → Bool}

theorem inicializarMemoria_refleja (htlb : 0 < E.config.cantidaEntradasTlb) (basura : ℕ → Pagina) :
    Refleja E (inicializarMemoria E.config basura) fun _ => Solitario.inicial :=
  ⟨_, _, inicializarMemoria_representa htlb basura, Nucleo.inicial_contenida, rfl⟩

/-- What the module is to its carpinchos: an LRU memory over a SWAmP that keeps what it is sent
and answers each carpincho by what that one has asked for. -/
structure Leal (E : Entorno) (concede : ℤ → List ℤ → ℤ → Bool) : Prop where
  lru : E.config.algoritmoReemplazoMmu = .lru
  entradas : 0 < E.config.cantidaEntradasTlb
  fiel : E.SwampFiel
  concede : Concede E concede

theorem Leal.sirve (h : Leal E concede) :
    Parties.Serves Llamada.pid (Memoria.llamar E) (Solitario.llamar E.config concede) (Refleja E)
      Detenida :=
  llamar_sirve h.lru h.fiel h.concede

/-- However the calls of the carpinchos come one after the other, each carpincho gets the answers
of a memory of its own. -/
theorem llamadas_como_a_solas (h : Leal E concede) (basura : ℕ → Pagina) (ops : List Llamada)
    (respuestas : ℤ → List Respuesta) (fin : ℤ → Solitario)
    (hsolos : ∀ pid, run (Solitario.llamar E.config concede) (inputsOf Llamada.pid pid ops)
      Solitario.inicial = .ok (respuestas pid, fin pid)) :
    Spec (run (Memoria.llamar E) ops (inicializarMemoria E.config basura))
      (fun r => ∀ pid, outputsTo Llamada.pid pid ops r.1 = respuestas pid)
      fun e => e = .candidatosVacios ∨ e = .desbordamiento :=
  (h.sirve.spec_run ops (inicializarMemoria_refleja h.entradas basura) hsolos).mono
    (fun _ hr => hr.1) fun _ he => he

theorem entornoFiel_leal (cfg : Config) (hlru : cfg.algoritmoReemplazoMmu = .lru)
    (htlb : 0 < cfg.cantidaEntradasTlb) : Leal (entornoFiel cfg) fun _ _ _ => true :=
  ⟨hlru, htlb, entornoFiel_swampFiel cfg, fun _ _ _ => rfl⟩

/-- Two carpinchos whose pages do not fit in eight frames together. -/
def alternadas : List Llamada :=
  [.memalloc 1 200, .memwrite 1 9 [7, 8], .memalloc 2 220, .memread 2 9 [0, 0],
    .memread 1 9 [0, 0]]

theorem exists_solos {cfg : Config} {ops : List Llamada}
    (h : ∀ pid, (run (Solitario.llamar cfg fun _ _ _ => true) (inputsOf Llamada.pid pid ops)
      Solitario.inicial).isOk = true) :
    ∃ (respuestas : ℤ → List Respuesta) (fin : ℤ → Solitario), ∀ pid,
      run (Solitario.llamar cfg fun _ _ _ => true) (inputsOf Llamada.pid pid ops)
        Solitario.inicial = .ok (respuestas pid, fin pid) := by
  choose r hr using fun pid => exists_of_isOk (h pid)
  exact ⟨fun pid => (r pid).1, fun pid => (r pid).2, hr⟩

theorem alternadas_solos (pid : ℤ) :
    (run (Solitario.llamar configHeap fun _ _ _ => true) (inputsOf Llamada.pid pid alternadas)
      Solitario.inicial).isOk = true := by
  by_cases h₁ : pid = 1
  · subst h₁
    decide +kernel
  · by_cases h₂ : pid = 2
    · subst h₂
      decide +kernel
    · have hnada : inputsOf Llamada.pid pid alternadas = [] := by
        simp [inputsOf, alternadas, Llamada.pid, Ne.symm h₁, Ne.symm h₂]
      rw [hnada]
      rfl

/-- The page of the first carpincho is evicted for the second one, and read back. -/
theorem llamadas_como_a_solas_dos :
    Spec (run (Memoria.llamar (entornoFiel configHeap)) alternadas estadoHeap)
      (fun r => outputsTo Llamada.pid 1 alternadas r.1 =
        [⟨.exito, some 9, none⟩, ⟨.exito, none, none⟩, ⟨.exito, none, some [7, 8]⟩])
      fun e => e = .candidatosVacios ∨ e = .desbordamiento := by
  obtain ⟨respuestas, fin, hsolos⟩ := exists_solos alternadas_solos
  have hprimero : returns (run (Solitario.llamar configHeap fun _ _ _ => true)
      (inputsOf Llamada.pid 1 alternadas) Solitario.inicial) (fun r => r.1 =
        [⟨.exito, some 9, none⟩, ⟨.exito, none, none⟩, ⟨.exito, none, some [7, 8]⟩]) = true := by
    decide +kernel
  obtain ⟨r, hr, hrespuestas⟩ := exists_of_returns hprimero
  rw [hsolos 1] at hr
  cases hr
  exact (llamadas_como_a_solas (entornoFiel_leal configHeap rfl (by decide)) _ alternadas
    respuestas fin hsolos).mono (fun r hr => (hr 1).trans (of_decide_eq_true hrespuestas))
    fun _ he => he

theorem allocsDePagina_config {cfg cfg' : Config} (h : cfg.tamanioPagina = cfg'.tamanioPagina)
    (indexPag : ℤ) (allocs : List Alloc) :
    allocsDePagina cfg indexPag allocs = allocsDePagina cfg' indexPag allocs := by
  induction allocs with
  | nil => rfl
  | cons alloc allocs ih => rw [allocsDePagina, allocsDePagina, ih, allocEstaEnPagina, h]; rfl

/-- A carpincho alone does not see how many frames there are, nor how pages are translated. -/
theorem solitario_config {cfg cfg' : Config} (htamanio : cfg.tamanioPagina = cfg'.tamanioPagina)
    (htipo : cfg.tipoAsignacion = cfg'.tipoAsignacion)
    (hmarcos : cfg.marcosPorCarpincho = cfg'.marcosPorCarpincho) {op : Llamada}
    (hconcede : concede op.pid = concede' op.pid) (t : Solitario) :
    Solitario.llamar cfg concede op t = Solitario.llamar cfg' concede' op t := by
  have hallocs := @allocsDePagina_config cfg cfg' htamanio 0
  cases cfg
  cases cfg'
  dsimp only at htamanio htipo hmarcos
  subst htamanio htipo hmarcos
  cases op with
  | memalloc pid size =>
    have hpid : concede pid = concede' pid := hconcede
    unfold Solitario.llamar memalloc planificar chequear planAlloc solicitar preguntar
    dsimp only
    rw [hpid]
    rfl
  | memwrite pid pos valor => rfl
  | memread pid pos buffer => rfl
  | memfree pid pos =>
    unfold Solitario.llamar memfree
    simp only [hallocs]
    rfl
  | memfreeAll pid => rfl

/-- What a carpincho is answered does not depend on the calls of the others, on the number of
frames, nor on the TLB. -/
theorem sin_interferencia (h : Leal E concede) (h' : Leal E' concede')
    (htamanio : E.config.tamanioPagina = E'.config.tamanioPagina)
    (htipo : E.config.tipoAsignacion = E'.config.tipoAsignacion)
    (hmarcos : E.config.marcosPorCarpincho = E'.config.marcosPorCarpincho)
    (basura basura' : ℕ → Pagina) {ops ops' : List Llamada}
    {respuestas respuestas' : ℤ → List Respuesta} {fin fin' : ℤ → Solitario}
    (hsolos : ∀ pid, run (Solitario.llamar E.config concede) (inputsOf Llamada.pid pid ops)
      Solitario.inicial = .ok (respuestas pid, fin pid))
    (hsolos' : ∀ pid, run (Solitario.llamar E'.config concede') (inputsOf Llamada.pid pid ops')
      Solitario.inicial = .ok (respuestas' pid, fin' pid))
    {pid : ℤ} (hconcede : concede pid = concede' pid)
    (hmismas : inputsOf Llamada.pid pid ops = inputsOf Llamada.pid pid ops')
    {r r' : List Respuesta × Estado}
    (hr : run (Memoria.llamar E) ops (inicializarMemoria E.config basura) = .ok r)
    (hr' : run (Memoria.llamar E') ops' (inicializarMemoria E'.config basura') = .ok r') :
    outputsTo Llamada.pid pid ops r.1 = outputsTo Llamada.pid pid ops' r'.1 := by
  refine h.sirve.outputs_eq h'.sirve (inicializarMemoria_refleja h.entradas basura)
    (inicializarMemoria_refleja h'.entradas basura') hsolos hsolos' (fun op t hop => ?_) hmismas rfl
    hr hr'
  subst hop
  exact solitario_config htamanio htipo hmarcos hconcede t

def configAmplia : Config :=
  { configHeap with
    tamanio := 512
    cantidaEntradasTlb := 1
    algoritmoReemplazoTlb := .lru
    tamanio_lt := by decide }

/-- The first carpincho alone, in a module with frames for all its pages and another TLB. -/
theorem sin_interferencia_dos :
    ∃ r r' : List Respuesta × Estado,
      run (Memoria.llamar (entornoFiel configHeap)) alternadas estadoHeap = .ok r ∧
      run (Memoria.llamar (entornoFiel configAmplia)) (inputsOf Llamada.pid 1 alternadas)
        (inicializarMemoria configAmplia fun _ => ⟨0, 0, 0, false, false, false, 0, false⟩) =
          .ok r' ∧
      outputsTo Llamada.pid 1 alternadas r.1 =
        outputsTo Llamada.pid 1 (inputsOf Llamada.pid 1 alternadas) r'.1 := by
  obtain ⟨respuestas, fin, hsolos⟩ := exists_solos alternadas_solos
  have hsolo : ∀ pid, (run (Solitario.llamar configAmplia fun _ _ _ => true)
      (inputsOf Llamada.pid pid (inputsOf Llamada.pid 1 alternadas))
      Solitario.inicial).isOk = true := by
    intro pid
    by_cases hpid : pid = 1
    · subst hpid
      decide +kernel
    · have hnada : inputsOf Llamada.pid pid (inputsOf Llamada.pid 1 alternadas) = [] := by
        simp [inputsOf, alternadas, Llamada.pid, Ne.symm hpid]
      rw [hnada]
      rfl
  obtain ⟨respuestas', fin', hsolos'⟩ := exists_solos hsolo
  obtain ⟨r, hr⟩ := exists_of_isOk (x := run (Memoria.llamar (entornoFiel configHeap)) alternadas
    estadoHeap) (by decide +kernel)
  obtain ⟨r', hr'⟩ := exists_of_isOk (x := run (Memoria.llamar (entornoFiel configAmplia))
    (inputsOf Llamada.pid 1 alternadas)
    (inicializarMemoria configAmplia fun _ => ⟨0, 0, 0, false, false, false, 0, false⟩))
    (by decide +kernel)
  refine ⟨r, r', hr, hr', ?_⟩
  exact sin_interferencia (entornoFiel_leal configHeap rfl (by decide))
    (entornoFiel_leal configAmplia rfl (by decide)) rfl rfl rfl _ _ hsolos hsolos' rfl rfl
    hr hr'

end Corridas

end Carpinchos.Memoria
