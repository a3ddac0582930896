import Carpinchos.Memoria.Coherencia
import Carpinchos.Memoria.Margen
import Carpinchos.Memoria.PasoTlb
import Carpinchos.Memoria.Plan
import Carpinchos.Memoria.Rango

/-!
# Blocks taken one after the other

A carpincho that never frees anything has its blocks in the order of its requests, without gaps,
and just the pages that they need. Under DINAMICA, with a SWAmP that grants and serves
everything, nothing stops such a run but the overflow of a counter.
-/

namespace Carpinchos.Memoria

open Outcome Estado Runs Tiling

namespace Nucleo

variable {π : Parametros} {n : Nucleo} {pid : ℤ} {p : ℕ}

def EnUso (n : Nucleo) : Prop := ∃ k p, n.marcos k = some p

theorem elegir_candidatos (ho : n.OrdenBien π) (pid : ℤ) :
    Spec (n.elegir π pid) (fun _ => True)
      (fun e => e = .candidatosVacios → n.candidatos π pid = []) := by
  unfold elegir
  split
  · next hlru =>
    unfold elegirLru
    split
    · next hfilter =>
      intro _
      rw [List.eq_nil_iff_forall_not_mem]
      intro q hq
      have hin : q ∈ n.orden := ((ho hlru).2 q).2 (mem_residentes_of_candidato hq)
      have hmem : q ∈ n.orden.filter fun p => decide (p ∈ n.candidatos π pid) :=
        List.mem_filter.2 ⟨hin, decide_eq_true hq⟩
      rw [hfilter] at hmem
      cases hmem
    · exact trivial
  · unfold elegirMClock
    split
    · next hvacia => exact fun _ => hvacia
    · split
      · intro he
        cases he
      · split
        · intro he
          cases he
        · exact trivial

theorem desalojarPara_candidatos (ho : n.OrdenBien π) (pid : ℤ) (p : ℕ) :
    Spec (n.desalojarPara π pid p) (fun _ => True)
      (fun e => e = .candidatosVacios → n.candidatos π pid = []) := by
  refine (elegir_candidatos ho pid).bind fun r _ => ?_
  obtain ⟨v, m⟩ := r
  dsimp only
  split
  · intro he
    cases he
  · exact trivial

theorem residentes_ne_nil (h : n.MarcosBien π) (huso : n.EnUso) : n.residentes π ≠ [] := by
  obtain ⟨k, p, hk⟩ := huso
  exact List.ne_nil_of_mem (h.mem_residentes_of hk)

theorem enUso_of_marcoLibre (hmarcos : 0 < π.cantidadMarcos) (h : n.marcoLibre π = none) :
    n.EnUso := by
  unfold marcoLibre at h
  rw [List.find?_eq_none] at h
  have hcero := h 0 (List.mem_range.2 hmarcos)
  rw [decide_eq_true_eq] at hcero
  obtain ⟨p, hp⟩ := Option.ne_none_iff_exists'.1 hcero
  exact ⟨0, p, hp⟩

variable (hdin : π.tipoAsignacion = .dinamica)
include hdin

theorem candidatos_dinamica (pid : ℤ) : n.candidatos π pid = n.residentes π := by
  rw [candidatos, hdin]

theorem desalojarPara_ok (h : n.Bien π) (ho : n.OrdenBien π) (huso : n.EnUso) (pid : ℤ) (p : ℕ) :
    Spec (n.desalojarPara π pid p) (fun r => ∃ v m, Desalojado π pid p n r.1 r.2 v m)
      (fun _ => False) := by
  refine ((desalojarPara_spec h pid p).and (desalojarPara_candidatos ho pid p)).mono
    (fun r hr => hr.1) ?_
  rintro e ⟨he, hvacios⟩
  have hnil := hvacios he
  rw [candidatos_dinamica hdin] at hnil
  exact residentes_ne_nil h.marcos huso hnil

theorem alojarNueva_ok (h : n.Bien π) (ho : n.OrdenBien π) (hmarcos : 0 < π.cantidadMarcos)
    (pid : ℤ) (p : ℕ) :
    Spec (n.alojarNueva π pid p) (fun r => Alojada π pid p n r.1 r.2) (fun _ => False) := by
  have hno : Spec (n.alojarNueva π pid p) (fun _ => True) (fun e => e ≠ .candidatosVacios) := by
    unfold alojarNueva
    split
    · split
      · intro he
        cases he
      · exact trivial
    · next hpuede =>
      have hlibre : n.marcoLibre π = none := by
        simpa [puedeTomarMarco, hdin] using hpuede
      exact (desalojarPara_ok hdin h ho (enUso_of_marcoLibre hmarcos hlibre) pid p).mono
        (fun _ _ => trivial) fun _ he => he.elim
  exact ((alojarNueva_spec h pid p).and hno).mono (fun r hr => hr.1) fun e he => he.2 he.1

theorem crear_ok (h : n.Bien π) (ho : n.OrdenBien π) (hmarcos : 0 < π.cantidadMarcos)
    (hpid : (n.proceso pid).isSome) :
    Spec (n.crear π pid) (fun r => (r.2.Bien π ∧ r.2.OrdenBien π) ∧ r.2.EnUso)
      (fun _ => False) := by
  obtain ⟨c, hc⟩ := Option.isSome_iff_exists.1 hpid
  have hcrear : Spec (n.crear π pid) (fun r => r.2.EnUso) (fun _ => False) := by
    have hb : (n.nombrar pid (c.paginas.length + 1)).Bien π := nombrar_bien h
    have hbo : (n.nombrar pid (c.paginas.length + 1)).OrdenBien π := ho
    unfold crear
    rw [hc]
    refine (alojarNueva_ok hdin hb hbo hmarcos pid n.proximoPtr).bind fun r hr => ?_
    refine ⟨r.1, n.proximoPtr, ?_⟩
    dsimp only
    rw [registrar_marcos, hr.marcos, Function.update_self]
  exact ((crear_spec h ho pid).and hcrear).mono (fun r hr => hr) fun e he => he.2

variable (hsirve : ∀ historia pid pagina, (π.leerSwamp historia pid pagina).isSome)
include hsirve

theorem traer_ok (h : n.Bien π) (ho : n.OrdenBien π) (huso : n.EnUso) (hp : n.existe p) :
    Spec (n.traer π p) (fun r => Traida π p n r.1 r.2) (fun _ => False) := by
  have hno : Spec (n.traer π p) (fun _ => True) (fun _ => False) := by
    unfold traer
    split
    · exact trivial
    · unfold recuperar
      refine (desalojarPara_ok hdin h ho huso _ p).bind fun r _ => ?_
      obtain ⟨k, n'⟩ := r
      dsimp only
      obtain ⟨contenido, hleer⟩ := Option.isSome_iff_exists.1
        (hsirve n'.mensajes (n'.nombre p).1 (n'.nombre p).2)
      rw [hleer]
      exact trivial
  exact ((traer_spec h ho hp).and hno).mono (fun r hr => hr.1) fun e he => he.2

theorem escribir_ok (h : n.Bien π) (ho : n.OrdenBien π) (huso : n.EnUso) (hp : n.existe p)
    {buffer : List UInt8} {offset : ℕ} (hcabe : offset + buffer.length ≤ π.tamanioPagina) :
    Spec (n.escribir π p buffer offset)
      (fun r => (r.2.Bien π ∧ r.2.OrdenBien π) ∧ r.2.EnUso) (fun _ => False) := by
  have hescribir : Spec (n.escribir π p buffer offset) (fun r => r.2.EnUso) (fun _ => False) := by
    refine (traer_ok hdin hsirve h ho huso hp).bind fun r hr => ?_
    rw [alcance, if_pos hcabe]
    refine ⟨r.1, p, ?_⟩
    dsimp only
    rw [marcar_marcos]
    exact hr.marco
  exact ((escribir_spec h ho hp buffer offset).and hescribir).mono (fun r hr => hr) fun e he => he.2

end Nucleo

section Representacion

variable {E : Entorno} {s s' : Estado} {n : Nucleo} {pid : ℤ} {q : Prop} {k paginas : ℕ}
  {allocs : List Alloc} {c : Carpincho}

theorem Representa.setAllocs (h : Representa E s n) (pid : ℤ) (allocs : List Alloc) :
    Representa E (Memoria.setAllocs pid allocs s) n := by
  have hprocesos : (Memoria.setAllocs pid allocs s).carpinchosList.map Carpincho.proceso =
      s.carpinchosList.map Carpincho.proceso := map_setCarpincho (fun _ => by rfl) pid s
  refine ⟨?_, h.bien, h.orden⟩
  exact ⟨h.sim.cache, h.sim.marcos, hprocesos.trans h.sim.carpinchos, h.sim.nombradas, h.sim.bits,
    h.sim.ubicadas, h.sim.proximoPtr, h.sim.mensajes, h.sim.puntero, h.sim.ramas, h.sim.estampas,
    ⟨h.sim.tlb.bien, h.sim.tlb.fifo⟩⟩

theorem Representa.preguntado (h : Representa E s n) (pid cantPag : ℤ) :
    Representa E (Memoria.preguntado pid cantPag s)
      { n with mensajes := n.mensajes ++ [.consulta pid cantPag] } := by
  refine ⟨?_, h.bien.of_campos rfl rfl rfl rfl rfl, h.orden⟩
  exact ⟨h.sim.cache, h.sim.marcos, h.sim.carpinchos, h.sim.nombradas, h.sim.bits,
    h.sim.ubicadas, h.sim.proximoPtr, congrArg (· ++ _) h.sim.mensajes, h.sim.puntero, h.sim.ramas,
    h.sim.estampas, ⟨h.sim.tlb.bien, h.sim.tlb.fifo⟩⟩

/-- The carpincho has so many pages, and these allocs, in a state that represents one of the
machine without TLB. While it has a page some page is in memory. If `q` holds every counter can
go up `k` times. -/
def Aloja (E : Entorno) (pid : ℤ) (q : Prop) (k paginas : ℕ) (allocs : List Alloc) (s : Estado) :
    Prop :=
  (∃ n, Representa E s n ∧ (0 < paginas → n.EnUso) ∧
    ∃ c, getCarpincho pid s = some c ∧ c.paginas.length = paginas ∧ c.allocs = allocs) ∧
  (q → Margen k s)

/-- The only fault is the overflow of a counter, for which there is no room in it. -/
def SinMargen (q : Prop) (e : Falla) : Prop := e = .desbordamiento ∧ ¬ q

theorem spec_sinMargen {α : Type} {x : Except Falla α} {post post' : α → Prop} {q : Prop}
    (h : Spec x post EsDesbordamiento) (h' : q → Spec x post' (· ≠ .desbordamiento)) :
    Spec x (fun a => post a ∧ (q → post' a)) (SinMargen q) := by
  cases x with
  | ok a => exact ⟨h, h'⟩
  | error e => exact ⟨h, fun hq => h' hq h⟩

theorem representado_of_heaps (h : getCarpincho pid s = some c) (heaps : s'.heaps = s.heaps) :
    ∃ d, getCarpincho pid s' = some d ∧ d.paginas.length = c.paginas.length ∧
      d.allocs = c.allocs := by
  obtain ⟨d, hd, hheap⟩ := getCarpincho_some_of_heaps heaps h
  refine ⟨d, hd, ?_, congrArg (fun x => x.2.2) hheap⟩
  exact congrArg List.length (congrArg (fun x => x.2.1) hheap)

theorem Aloja.menos {j : ℕ} (h : Aloja E pid q k paginas allocs s) (hle : j ≤ k) :
    Aloja E pid q j paginas allocs s :=
  ⟨h.1, fun hq => (h.2 hq).mono hle⟩

theorem Aloja.setAllocs (h : Aloja E pid q k paginas allocs s) (allocs' : List Alloc) :
    Aloja E pid q k paginas allocs' (Memoria.setAllocs pid allocs' s) := by
  obtain ⟨⟨n, hrep, huso, c, hc, hpaginas, -⟩, hmargen⟩ := h
  refine ⟨⟨n, hrep.setAllocs pid allocs', huso, _, getCarpincho_setAllocs hc allocs', hpaginas,
    rfl⟩, fun hq => ?_⟩
  exact (hmargen hq).of_iguales rfl rfl rfl rfl (map_setCarpincho (fun _ => by rfl) pid s)

theorem Aloja.preguntado (h : Aloja E pid q k paginas allocs s) (cantPag : ℤ) :
    Aloja E pid q k paginas allocs (Memoria.preguntado pid cantPag s) := by
  obtain ⟨⟨n, hrep, huso, c, hc, hcampos⟩, hmargen⟩ := h
  refine ⟨⟨_, hrep.preguntado pid cantPag, huso, c, hc, hcampos⟩, fun hq => ?_⟩
  exact (hmargen hq).of_iguales rfl rfl rfl rfl rfl

end Representacion

section Pasos

variable {E : Entorno} {s s' : Estado} {pid : ℤ} {q : Prop} {k paginas : ℕ} {allocs : List Alloc}

/-- Free frames for everybody, and a SWAmP that grants and serves everything. -/
structure SinRechazos (E : Entorno) : Prop where
  dinamica : E.config.tipoAsignacion = .dinamica
  marcos : 0 < E.config.cantidadMarcos
  tlb : 0 < E.config.cantidaEntradasTlb
  concede : ∀ historia pid cantPag, E.puedeEscribirSwamp historia pid cantPag ≠ 0
  sirve : ∀ historia pid pagina, (E.leerSwamp historia pid pagina).isSome

theorem Aloja.createPagina (hE : SinRechazos E) (h : Aloja E pid q (k + 2) paginas allocs s) :
    Spec (createPagina E pid s) (fun r => Aloja E pid q k (paginas + 1) allocs r.2)
      (SinMargen q) := by
  obtain ⟨⟨n, hrep, huso, c, hc, rfl, rfl⟩, hmargen⟩ := h
  have hproceso : (n.proceso pid).isSome := by
    rw [← hrep.sim.getCarpincho_proceso, hc]
    rfl
  have hcrear := (createPagina_sim hrep.sim hrep.bien hrep.orden hproceso).spec
    (Nucleo.crear_ok hE.dinamica hrep.bien hrep.orden hE.marcos hproceso) fun _ he => he.elim
  have hspec := hcrear.self.mono (fun _ hr => hr) fun e he => he.resolve_left id
  refine (spec_sinMargen hspec fun hq => createPagina_margen (hmargen hq)).mono ?_ fun _ he => he
  rintro ⟨p, s'⟩ ⟨⟨hs, ⟨p', n'⟩, ⟨-, hsim⟩, ⟨hb, ho⟩, huso'⟩, hmargen'⟩
  obtain ⟨d, hd, hpaginas, hallocs⟩ := getCarpincho_createPagina hc hs
  refine ⟨⟨n', ⟨hsim, hb, ho⟩, fun _ => huso', d, hd, ?_, hallocs⟩, hmargen'⟩
  rw [hpaginas, List.length_append, List.length_singleton]

theorem Aloja.crearPaginas (hE : SinRechazos E) {m : ℕ}
    (h : Aloja E pid q (k + 2 * m) paginas allocs s) :
    Spec (crearPaginas E pid m s) (Aloja E pid q k (paginas + m) allocs) (SinMargen q) := by
  induction m generalizing s paginas with
  | zero => exact h
  | succ m ih =>
    rw [show k + 2 * (m + 1) = k + 2 * m + 2 by omega] at h
    refine (h.createPagina hE).bind fun r hr => ?_
    rw [show paginas + (m + 1) = paginas + 1 + m by omega]
    exact ih hr

theorem Aloja.asignarPaginas (hE : SinRechazos E) {m : ℕ}
    (h : Aloja E pid q (k + 2 * m) paginas allocs s) (hm : m + 1 < 2 ^ 31) :
    Spec (asignarPaginasCarpincho E pid m s) (Aloja E pid q k (paginas + m) allocs)
      (SinMargen q) := by
  have hcuenta : enInt ((m : ℤ) + 1) = .ok ((m : ℤ) + 1) := enInt_eq_ok.2 ⟨by omega, rfl⟩
  unfold asignarPaginasCarpincho
  rw [Int.toNat_natCast, hcuenta]
  exact (h.crearPaginas hE).bind fun s₁ hs₁ => hs₁

theorem Aloja.paginaPorNumero {i : ℕ} (h : Aloja E pid q k paginas allocs s) (hi : i < paginas)
    (hlt : paginas < 2 ^ 31) :
    ∃ n p, paginaPorNumero pid i s = .ok p ∧ Representa E s n ∧ n.EnUso ∧ n.existe p := by
  obtain ⟨⟨n, hrep, huso, c, hc, rfl, -⟩, -⟩ := h
  have hproceso := hrep.sim.getCarpincho_proceso pid
  rw [hc, Option.map_some] at hproceso
  obtain ⟨hmem, hpid⟩ := Nucleo.proceso_some hproceso.symm
  have hexiste : ∀ q ∈ c.paginas, n.existe q := fun q hq => ⟨c.proceso, hmem, hq⟩
  have hnombre : n.nombre c.paginas[i] = (c.pid, (i : ℤ) + 1) :=
    hrep.bien.tablas.nombre c.proceso hmem i hi
  have hq := hrep.sim.nombradas _ (hexiste _ (List.getElem_mem hi))
  have hnumero : aInt ((i : ℤ) + 1) = i + 1 := aInt_of_range (by omega) (by omega)
  have hsome : (c.paginas.find? fun p => decide ((s.descriptor p).carpinchoPid = c.pid ∧
      (s.descriptor p).pagina = aInt ((i : ℤ) + 1))).isSome := by
    rw [List.find?_isSome]
    refine ⟨c.paginas[i], List.getElem_mem hi, ?_⟩
    rw [decide_eq_true_eq, hq.pid, hq.pagina, hnombre, hnumero]
    exact ⟨rfl, rfl⟩
  obtain ⟨p, hp⟩ := Option.isSome_iff_exists.1 hsome
  refine ⟨n, p, ?_, hrep, huso (by omega), hexiste p (List.mem_of_find?_eq_some hp)⟩
  unfold Memoria.paginaPorNumero carpinchoDe
  rw [hc]
  simp only [ok_bind, getPage, hrep.sim.paginasLegibles hexiste, hp]

theorem Aloja.escribirEnPagina (hE : SinRechazos E) {n : Nucleo} {p offset : ℕ}
    {buffer : List UInt8} (h : Aloja E pid q (k + 4) paginas allocs s) (hrep : Representa E s n)
    (huso : n.EnUso) (hp : n.existe p)
    (hcabe : offset + buffer.length ≤ E.config.tamanioPagina) :
    Spec (escribirEnPagina E p buffer offset s) (fun r => Aloja E pid q k paginas allocs r.2)
      (SinMargen q) := by
  have hescribir := (escribirEnPagina_sim hrep.sim hrep.bien hrep.orden hp buffer offset).spec
    (Nucleo.escribir_ok hE.dinamica hE.sirve hrep.bien hrep.orden huso hp hcabe)
    fun _ he => he.elim
  have hspec := hescribir.self.mono (fun _ hr => hr) fun e he => he.resolve_left id
  refine (spec_sinMargen hspec fun hq =>
    escribirEnPagina_margen hrep.sim hrep.bien hp (h.2 hq)).mono ?_ fun _ he => he
  rintro ⟨result, s'⟩ ⟨⟨hs, ⟨result', n'⟩, ⟨-, hsim⟩, ⟨hb, ho⟩, huso'⟩, hmargen'⟩
  obtain ⟨⟨-, -, -, c, hc, rfl, rfl⟩, -⟩ := h
  exact ⟨⟨n', ⟨hsim, hb, ho⟩, fun _ => huso', representado_of_heaps hc (heaps_escribirEnPagina hs)⟩,
    hmargen'⟩

theorem Aloja.escribirAcciones (hE : SinRechazos E) (valor : List UInt8) {pos size prev : ℕ}
    (h : Aloja E pid q (k + 4 * size) paginas allocs s)
    (hcabe : pos + size ≤ paginas * E.config.tamanioPagina)
    (hlt : paginas * E.config.tamanioPagina < 2 ^ 31) :
    Spec (Memoria.escribirAcciones E (Memoria.paginaPorNumero pid) valor
        (acciones E.config pos size) prev s)
      (Aloja E pid q k paginas allocs) (SinMargen q) := by
  have hP := E.config.pagina_pos
  induction size using Nat.strong_induction_on generalizing pos prev s with
  | _ size ih =>
    rcases Nat.eq_zero_or_pos size with rfl | hsize
    · exact h
    · have hpaginas : paginas < 2 ^ 31 := (Nat.le_mul_of_pos_right _ hP).trans_lt hlt
      have hi : pos / E.config.tamanioPagina < paginas := by
        rw [Nat.div_lt_iff_lt_mul hP]
        omega
      obtain ⟨len, htrozo, hlen, htermina⟩ := primerTrozo_cabe E pos hsize
      rw [acciones_cons hsize (by omega), htrozo]
      obtain ⟨n, p, hpagina, hrep, huso, hp⟩ := h.paginaPorNumero hi hpaginas
      have hoffset : (List.range' (pos % E.config.tamanioPagina) (len + 1)).headD 0 =
          pos % E.config.tamanioPagina := rfl
      have htoma : ((valor.drop prev).take
          (List.range' (pos % E.config.tamanioPagina) (len + 1)).length).length ≤ len + 1 := by
        rw [List.length_range']
        exact List.length_take_le _ _
      unfold Memoria.escribirAcciones
      dsimp only
      rw [hpagina, ok_bind, hoffset]
      have hresto : Aloja E pid q (k + 4 * (size - (len + 1)) + 4) paginas allocs s :=
        h.menos (by omega)
      refine (hresto.escribirEnPagina hE hrep huso hp (by omega)).bind fun r hr => ?_
      rw [List.length_range']
      exact ih (size - (len + 1)) (by omega) hr (by omega)

theorem Aloja.persistirDireccion (hE : SinRechazos E) {direccion : ℕ} {alloc : Alloc}
    (h : Aloja E pid q (k + 36) paginas allocs s)
    (hobtener : obtenerAllocDeUnCarpincho allocs direccion = some alloc)
    (hcabe : alloc.direccion + 9 ≤ paginas * E.config.tamanioPagina)
    (hlt : paginas * E.config.tamanioPagina < 2 ^ 31) :
    Spec (persistirDireccion E pid direccion s) (Aloja E pid q k paginas allocs)
      (SinMargen q) := by
  obtain ⟨⟨-, -, -, c, hc, -, hallocs⟩, -⟩ := id h
  have hmem : alloc ∈ allocs := List.mem_of_find?_eq_some hobtener
  obtain ⟨indice, hindice⟩ : ∃ i, allocs.findIdx? (fun a => a.direccion = alloc.direccion) =
      some i := by
    rw [← Option.isSome_iff_exists, List.findIdx?_isSome, List.any_eq_true]
    exact ⟨alloc, hmem, decide_eq_true rfl⟩
  unfold Memoria.persistirDireccion Memoria.persistirMetadataHeap carpinchoDe
  rw [hc]
  simp only [ok_bind, hallocs, hobtener, obtenerIndiceDeAlloc, hindice]
  exact h.escribirAcciones hE _ hcabe hlt

end Pasos

section Bloques

variable {cfg : Config} {dir size paginas d : ℕ} {tamanios : List ℕ}

def enFila : ℕ → List ℕ → List Alloc
  | _, [] => []
  | dir, size :: tamanios => ⟨dir, false, size⟩ :: enFila (dir + (size + 9)) tamanios

def espacio (tamanios : List ℕ) : ℕ := (tamanios.map fun size => size + 9).sum

theorem espacio_cons (size : ℕ) (tamanios : List ℕ) :
    espacio (size :: tamanios) = size + 9 + espacio tamanios := rfl

theorem espacio_concat (tamanios : List ℕ) (size : ℕ) :
    espacio (tamanios ++ [size]) = espacio tamanios + (size + 9) := by
  simp [espacio]

theorem enFila_concat (dir : ℕ) (tamanios : List ℕ) (size : ℕ) :
    enFila dir (tamanios ++ [size]) =
      enFila dir tamanios ++ [⟨dir + espacio tamanios, false, size⟩] := by
  induction tamanios generalizing dir with
  | nil => rfl
  | cons x tamanios ih =>
    rw [List.cons_append, enFila, ih, enFila, List.cons_append, espacio_cons,
      Nat.add_assoc dir (x + 9)]

theorem enFila_tiles (dir : ℕ) (tamanios : List ℕ) :
    bloques.Tiles dir (enFila dir tamanios) (dir + espacio tamanios) := by
  induction tamanios generalizing dir with
  | nil => rfl
  | cons size tamanios ih =>
    have hsize : bloques.size ⟨dir, false, size⟩ = size + 9 := by
      show ((size : ℤ) + 9).toNat = size + 9
      omega
    refine ⟨rfl, ?_⟩
    rw [hsize, espacio_cons, ← Nat.add_assoc dir (size + 9)]
    exact ih _

theorem total_enFila (tamanios : List ℕ) :
    bloques.total (enFila 0 tamanios) = espacio tamanios := by
  have htotal := (enFila_tiles 0 tamanios).hi_eq
  omega

theorem mem_enFila {a : Alloc} (ha : a ∈ enFila dir tamanios) :
    a.isFree = false ∧ ∃ size ∈ tamanios, a.tamanioData = size := by
  induction tamanios generalizing dir with
  | nil => cases ha
  | cons size tamanios ih =>
    rcases List.mem_cons.1 ha with rfl | ha
    · exact ⟨rfl, size, List.mem_cons_self, rfl⟩
    · obtain ⟨hfree, x, hx, hdato⟩ := ih ha
      exact ⟨hfree, x, List.mem_cons_of_mem _ hx, hdato⟩

theorem enFila_datos (huno : ∀ size ∈ tamanios, 1 ≤ size) :
    ∀ a ∈ enFila dir tamanios, 1 ≤ a.tamanioData := by
  intro a ha
  obtain ⟨-, size, hsize, hdato⟩ := mem_enFila ha
  have := huno size hsize
  omega

theorem enFila_teselado (huno : ∀ size ∈ tamanios, 1 ≤ size)
    (hcaben : espacio tamanios ≤ paginas * cfg.tamanioPagina)
    (hlt : paginas * cfg.tamanioPagina < 2 ^ 31) : Teselado cfg paginas (enFila 0 tamanios) := by
  have htiles := enFila_tiles 0 tamanios
  rw [Nat.zero_add] at htiles
  refine .of_tiles htiles (enFila_datos huno) hcaben (fun a ha => ?_) (by omega)
  have hstop := stop_bloques (enFila_datos huno a ha)
  have hfin := (htiles.bounds ha).2
  omega

/-- Rounding up to pages gives the only number of pages that is enough without one to spare. -/
theorem ceilDiv_eq_of_bounds {n q : ℕ} (hd : 0 < d) (hle : n ≤ q * d) (hlt : q * d < n + d) :
    n ⌈/⌉ d = q := by
  obtain ⟨hle', hlt'⟩ := ceilDiv_bounds (n := n) hd
  generalize n ⌈/⌉ d = r at hle' hlt'
  apply Nat.le_antisymm
  · by_contra hgt
    have hmul : (q + 1) * d ≤ r * d := Nat.mul_le_mul_right d (by omega)
    rw [Nat.succ_mul] at hmul
    omega
  · by_contra hgt
    have hmul : (r + 1) * d ≤ q * d := Nat.mul_le_mul_right d (by omega)
    rw [Nat.succ_mul] at hmul
    omega

/-- The block that has been added last is found by the address of its data. -/
theorem obtenerAlloc_enFila (huno : ∀ x ∈ tamanios ++ [size], 1 ≤ x)
    (hcaben : espacio (tamanios ++ [size]) ≤ paginas * cfg.tamanioPagina)
    (hlt : paginas * cfg.tamanioPagina < 2 ^ 31) :
    ∃ alloc, obtenerAllocDeUnCarpincho (enFila 0 (tamanios ++ [size])) (espacio tamanios + 9) =
      some alloc ∧ alloc.direccion + 9 ≤ paginas * cfg.tamanioPagina := by
  have htes := enFila_teselado huno hcaben hlt
  have hsize := huno size (by simp)
  rw [espacio_concat] at hcaben
  rcases htes.obtenerAlloc hlt (espacio tamanios + 9) with
    ⟨-, alloc, -, halloc, hdesde, -⟩ | ⟨hno, -⟩
  · exact ⟨alloc, halloc, by omega⟩
  · refine absurd ⟨⟨espacio tamanios, false, size⟩, ?_, le_rfl, ?_⟩ hno
    · rw [enFila_concat, Nat.zero_add]
      simp
    · have hstop := @stop_bloques ⟨espacio tamanios, false, size⟩ (by simpa using hsize)
      dsimp only at hstop
      omega

end Bloques

section Memalloc

variable {E : Entorno} {s s₁ : Estado} {pid : ℤ} {q : Prop} {k size paginas : ℕ}
  {tamanios : List ℕ} {c : Carpincho}

/-- The carpincho has blocks of these sizes in a row, in the pages that they need. -/
def AlojaFila (E : Entorno) (pid : ℤ) (q : Prop) (k : ℕ) (tamanios : List ℕ) (s : Estado) : Prop :=
  Aloja E pid q k (espacio tamanios ⌈/⌉ E.config.tamanioPagina) (enFila 0 tamanios) s

/-- How often a counter goes up at most while blocks are added: twice for a page, and 36 times
for the nine bytes of a header. -/
def cuenta (P : ℕ) (tamanios nuevos : List ℕ) : ℕ :=
  2 * (espacio (tamanios ++ nuevos) ⌈/⌉ P - espacio tamanios ⌈/⌉ P) + 36 * nuevos.length

theorem paginas_enFila (cfg : Config) (tamanios : List ℕ) :
    espacio tamanios ≤ (espacio tamanios ⌈/⌉ cfg.tamanioPagina) * cfg.tamanioPagina ∧
      (espacio tamanios ⌈/⌉ cfg.tamanioPagina) * cfg.tamanioPagina <
        espacio tamanios + cfg.tamanioPagina :=
  ceilDiv_bounds cfg.pagina_pos

theorem medible_enFila (huno : ∀ x ∈ tamanios, 1 ≤ x)
    (hcota : espacio tamanios + E.config.tamanioPagina < 2 ^ 31)
    (hpaginas : c.paginas.length = espacio tamanios ⌈/⌉ E.config.tamanioPagina)
    (hallocs : c.allocs = enFila 0 tamanios) : HeapMedible E.config c := by
  obtain ⟨hbastan, hjustas⟩ := paginas_enFila E.config tamanios
  have htiles := enFila_tiles 0 tamanios
  rw [Nat.zero_add] at htiles
  refine ⟨?_, ?_, ?_, ?_⟩
  · rw [hallocs, total_enFila]
    exact htiles
  · rw [hallocs]
    exact enFila_datos huno
  · rw [hallocs, total_enFila, hpaginas]
    exact hbastan
  · rw [hpaginas]
    omega

theorem no_hayLibre (x : ℤ) : ¬ HayLibre x (enFila 0 tamanios) := by
  rintro ⟨a, ha, hlibre, -⟩
  rw [(mem_enFila ha).1] at hlibre
  cases hlibre

theorem asignarEnPaginaConEspacio_enFila (size : ℕ)
    (h : Aloja E pid q k paginas (enFila 0 tamanios) s)
    (huno : ∀ x ∈ tamanios, 1 ≤ x) (hcaben : espacio tamanios ≤ paginas * E.config.tamanioPagina)
    (hlt : paginas * E.config.tamanioPagina < 2 ^ 31) (hsize : size < 2 ^ 31) :
    ∃ s', memallocAsignarEnPaginaConEspacio pid size s = .ok (espacio tamanios + 9, s') ∧
      Aloja E pid q k paginas (enFila 0 (tamanios ++ [size])) s' := by
  have htes := enFila_teselado huno hcaben hlt
  have htotal := total_enFila tamanios
  obtain ⟨⟨-, -, -, c, hc, -, hallocs⟩, -⟩ := id h
  refine ⟨_, ?_, h.setAllocs _⟩
  unfold memallocAsignarEnPaginaConEspacio carpinchoDe
  rw [hc, ok_bind, hallocs, htes.inicioDatoAlFinal_eq (by omega),
    htes.allocAlFinal_eq (by omega) hsize, htotal, enFila_concat, Nat.zero_add]

theorem asignarEnPaginasNuevas_enFila (hE : SinRechazos E)
    (h : AlojaFila E pid q (k + cuenta E.config.tamanioPagina tamanios [size]) tamanios s)
    (huno : ∀ x ∈ tamanios, 1 ≤ x)
    (hcota : espacio (tamanios ++ [size]) + E.config.tamanioPagina < 2 ^ 31)
    (hcorto : (espacio tamanios ⌈/⌉ E.config.tamanioPagina) * E.config.tamanioPagina <
      espacio (tamanios ++ [size])) :
    Spec (memallocAsignarEnPaginasNuevas E pid size s)
      (fun r => r.1 = espacio tamanios + 9 ∧ AlojaFila E pid q (k + 36) (tamanios ++ [size]) r.2)
      (SinMargen q) := by
  have hP := E.config.pagina_pos
  obtain ⟨hbastan, hjustas⟩ := paginas_enFila E.config tamanios
  rw [espacio_concat] at hcota hcorto
  obtain ⟨⟨-, -, -, c, hc, hpaginas, hallocs⟩, -⟩ := id h
  have hmed := medible_enFila huno (by omega) hpaginas hallocs
  have htotal := total_enFila tamanios
  rw [← hallocs] at htotal
  have hentero := aInt_of_range (x := (size : ℤ)) (by omega) (by omega)
  have hlibre : espacioLibre E.config c < size + 9 := by
    rw [espacioLibre, ← Nat.cast_mul, hpaginas]
    omega
  have hfaltan := hmed.paginasQueFaltan_ok hlibre (by omega)
  obtain ⟨hcaben, hsobran⟩ := hmed.paginasFaltantes_bounds hlibre
  generalize paginasFaltantes E.config c size = m at hfaltan hcaben hsobran
  rw [hpaginas, htotal] at hcaben hsobran
  have hnuevas : espacio (tamanios ++ [size]) ⌈/⌉ E.config.tamanioPagina =
      espacio tamanios ⌈/⌉ E.config.tamanioPagina + m := by
    rw [espacio_concat]
    exact ceilDiv_eq_of_bounds hP (by omega) (by omega)
  have hm : m + 1 < 2 ^ 31 := by
    have hmul : m * 1 ≤ (espacio tamanios ⌈/⌉ E.config.tamanioPagina + m) *
        E.config.tamanioPagina := Nat.mul_le_mul (by omega) hP
    omega
  obtain ⟨ocupado, hocupado, hfaltan⟩ := bind_eq_ok.1 hfaltan
  obtain ⟨libre, hlibre, hcalcular⟩ := bind_eq_ok.1 hfaltan
  unfold memallocAsignarEnPaginasNuevas carpinchoDe
  rw [hc, ok_bind, hocupado, ok_bind, hlibre, ok_bind, hentero, hcalcular, ok_bind]
  have hcuenta : k + cuenta E.config.tamanioPagina tamanios [size] = k + 36 + 2 * m := by
    rw [cuenta, hnuevas, Nat.add_sub_cancel_left, List.length_singleton]
    omega
  rw [AlojaFila, hcuenta] at h
  refine (Aloja.asignarPaginas hE h (by omega)).bind fun s₁ hs₁ => ?_
  obtain ⟨s', hs', haloja⟩ := asignarEnPaginaConEspacio_enFila size hs₁ huno (by omega) (by omega)
    (by omega)
  rw [hs']
  refine ⟨rfl, ?_⟩
  rw [AlojaFila, hnuevas]
  exact haloja

/-- A plan that can be carried out ends with the header of the new block. -/
theorem memoryMemalloc_of_plan (hE : SinRechazos E) {checkStatus : CheckAllocRespuesta}
    (huno : ∀ x ∈ tamanios ++ [size], 1 ≤ x)
    (hcota : espacio (tamanios ++ [size]) + E.config.tamanioPagina < 2 ^ 31)
    (hplan : planificarMemalloc E pid size s = .ok (checkStatus, s₁))
    (hasignar : Spec (asignarMemalloc E pid size checkStatus s₁)
      (fun r => r.1 = some (espacio tamanios + 9) ∧
        AlojaFila E pid q (k + 36) (tamanios ++ [size]) r.2) (SinMargen q)) :
    Spec (memoryMemalloc E pid size s)
      (fun r => r.1 = (.exito, some (espacio tamanios + 9)) ∧
        AlojaFila E pid q k (tamanios ++ [size]) r.2) (SinMargen q) := by
  obtain ⟨hbastan, hjustas⟩ := paginas_enFila E.config (tamanios ++ [size])
  have hlt : (espacio (tamanios ++ [size]) ⌈/⌉ E.config.tamanioPagina) *
    E.config.tamanioPagina < 2 ^ 31 := by omega
  obtain ⟨alloc, hobtener, hcabe⟩ := obtenerAlloc_enFila huno hbastan hlt
  unfold memoryMemalloc
  rw [hplan, ok_bind]
  refine hasignar.bind fun r hr => ?_
  obtain ⟨direccion, s₂⟩ := r
  obtain ⟨rfl, haloja⟩ := hr
  refine (Aloja.persistirDireccion hE haloja hobtener hcabe hlt).bind fun s₃ hs₃ => ?_
  exact ⟨rfl, hs₃⟩

theorem asignarMemalloc_solicitar_enFila (hE : SinRechazos E)
    (h : AlojaFila E pid q (k + cuenta E.config.tamanioPagina tamanios [size]) tamanios s)
    (huno : ∀ x ∈ tamanios, 1 ≤ x)
    (hcota : espacio (tamanios ++ [size]) + E.config.tamanioPagina < 2 ^ 31)
    (hcorto : (espacio tamanios ⌈/⌉ E.config.tamanioPagina) * E.config.tamanioPagina <
      espacio (tamanios ++ [size])) :
    Spec (asignarMemalloc E pid size .allocSolicitarPagina s)
      (fun r => r.1 = some (espacio tamanios + 9) ∧
        AlojaFila E pid q (k + 36) (tamanios ++ [size]) r.2) (SinMargen q) := by
  refine (asignarEnPaginasNuevas_enFila hE h huno hcota hcorto).bind fun r hr => ?_
  exact ⟨congrArg some hr.1, hr.2⟩

/-- The next block of a carpincho. -/
theorem memoryMemalloc_enFila (hE : SinRechazos E)
    (h : AlojaFila E pid q (k + cuenta E.config.tamanioPagina tamanios [size]) tamanios s)
    (huno : ∀ x ∈ tamanios ++ [size], 1 ≤ x)
    (hcota : espacio (tamanios ++ [size]) + E.config.tamanioPagina < 2 ^ 31) :
    Spec (memoryMemalloc E pid size s)
      (fun r => r.1 = (.exito, some (espacio tamanios + 9)) ∧
        AlojaFila E pid q k (tamanios ++ [size]) r.2) (SinMargen q) := by
  have hP := E.config.pagina_pos
  have hantes : ∀ x ∈ tamanios, 1 ≤ x := fun x hx => huno x (List.mem_append_left _ hx)
  obtain ⟨hbastan, hjustas⟩ := paginas_enFila E.config tamanios
  have hsuma := espacio_concat tamanios size
  obtain ⟨⟨-, -, -, c, hc, hpaginas, hallocs⟩, -⟩ := id h
  have hmed := medible_enFila hantes (by omega) hpaginas hallocs
  have htotal := total_enFila tamanios
  rw [← hallocs] at htotal
  have hentero := aInt_of_range (x := (size : ℤ)) (by omega) (by omega)
  have hlibre : espacioLibre E.config c =
      ((espacio tamanios ⌈/⌉ E.config.tamanioPagina) * E.config.tamanioPagina : ℕ) -
        espacio tamanios := by
    rw [espacioLibre, ← Nat.cast_mul, hpaginas, htotal]
  have hplan : planificarMemalloc E pid size s = checkAlloc E c size s := by
    unfold planificarMemalloc
    rw [hc, hentero]
  have hno : ¬ HayLibre (size : ℤ) c.allocs := by
    rw [hallocs]
    exact no_hayLibre _
  rw [hmed.checkAlloc_ocupado hno (by omega) (by omega), if_pos hE.dinamica] at hplan
  rcases le_or_gt ((size : ℤ) + 9) (espacioLibre E.config c) with hcabe | hcorto
  · rw [if_pos hcabe] at hplan
    refine memoryMemalloc_of_plan hE huno hcota hplan ?_
    have hmargen : AlojaFila E pid q (k + 36) tamanios s := h.menos (by simp [cuenta])
    obtain ⟨s', hs', haloja⟩ := asignarEnPaginaConEspacio_enFila size hmargen hantes hbastan
      (by omega) (by omega)
    have hmismas : espacio (tamanios ++ [size]) ⌈/⌉ E.config.tamanioPagina =
        espacio tamanios ⌈/⌉ E.config.tamanioPagina :=
      ceilDiv_eq_of_bounds hP (by omega) (by omega)
    unfold asignarMemalloc
    rw [hs']
    refine ⟨rfl, ?_⟩
    rw [AlojaFila, hmismas]
    exact haloja
  · rw [if_neg (not_le.2 hcorto), hmed.solicitarPaginas_ok hcorto (by omega),
      if_pos (hE.concede _ _ _)] at hplan
    refine memoryMemalloc_of_plan hE huno hcota hplan ?_
    obtain rfl := (getCarpincho_pid hc).1
    exact asignarMemalloc_solicitar_enFila hE (Aloja.preguntado h _) hantes hcota (by omega)

end Memalloc

section Corrida

variable {E : Entorno} {s : Estado} {n : Nucleo} {pid : ℤ} {q : Prop} {k size : ℕ}
  {tamanios : List ℕ}

theorem cuenta_cons {P : ℕ} (hP : 0 < P) (tamanios : List ℕ) (size : ℕ) (nuevos : List ℕ) :
    cuenta P tamanios (size :: nuevos) =
      cuenta P (tamanios ++ [size]) nuevos + cuenta P tamanios [size] := by
  have hmono : ∀ xs ys : List ℕ, espacio xs ⌈/⌉ P ≤ espacio (xs ++ ys) ⌈/⌉ P := by
    intro xs ys
    rw [ceilDiv_le_iff_le_mul hP, Nat.mul_comm]
    have hsuma : espacio xs ≤ espacio (xs ++ ys) := by simp [espacio]
    exact hsuma.trans (ceilDiv_bounds hP).1
  have huno := hmono tamanios [size]
  have hresto := hmono (tamanios ++ [size]) nuevos
  unfold cuenta
  rw [List.append_cons, List.length_cons, List.length_singleton]
  omega

theorem planificarMemalloc_primera (hE : SinRechazos E) (hno : getCarpincho pid s = none)
    (hsize : size + 9 < 2 ^ 31) :
    planificarMemalloc E pid size s = .ok (.allocSolicitarPagina,
      createCarpincho pid (preguntado pid ((size + 9) ⌈/⌉ E.config.tamanioPagina : ℕ) s)) := by
  have hentero := aInt_of_range (x := (size : ℤ)) (by omega) (by omega)
  have hnat : ((size : ℤ) + 9 - 0).toNat = size + 9 := by omega
  unfold planificarMemalloc
  rw [hno]
  dsimp only
  rw [hentero, calcularCantidadPaginas_ok (by omega) (by omega) (by omega) (by omega), ok_bind,
    hnat]
  unfold checkSizeSwamp
  dsimp only
  rw [if_pos (decide_eq_true (hE.concede _ _ _))]
  rfl

theorem aloja_createCarpincho (hrep : Representa E s n) (hpid : 0 < pid)
    (hno : getCarpincho pid s = none) (hmargen : q → Margen k s) :
    AlojaFila E pid q k [] (createCarpincho pid s) := by
  obtain ⟨hbien, horden⟩ := Nucleo.crearProceso_spec hrep.bien hrep.orden (ne_of_gt hpid)
  have hcero : espacio [] ⌈/⌉ E.config.tamanioPagina = 0 := zero_ceilDiv _
  obtain ⟨c, hc, hpaginas, hallocs⟩ := getCarpincho_createCarpincho hno
  refine ⟨⟨_, ⟨createCarpincho_sim hrep.sim pid, hbien, horden⟩, fun hpos => ?_, c, hc, ?_,
    hallocs⟩,
    fun hq => (hmargen hq).createCarpincho pid⟩
  · omega
  · rw [hcero, hpaginas]
    rfl

theorem memoryMemalloc_primera (hE : SinRechazos E) (hrep : Representa E s n) (hpid : 0 < pid)
    (hno : getCarpincho pid s = none) (hsize : 1 ≤ size)
    (hmargen : q → Margen (k + cuenta E.config.tamanioPagina [] [size]) s)
    (hcota : espacio [size] + E.config.tamanioPagina < 2 ^ 31) :
    Spec (memoryMemalloc E pid size s)
      (fun r => r.1 = (.exito, some (espacio [] + 9)) ∧ AlojaFila E pid q k [size] r.2)
      (SinMargen q) := by
  have hsuma : espacio [size] = size + 9 := rfl
  have hplan := planificarMemalloc_primera hE hno (show size + 9 < 2 ^ 31 by omega)
  have huno : ∀ x ∈ [size], 1 ≤ x := by simpa using hsize
  have haloja := aloja_createCarpincho
    (hrep.preguntado pid ((size + 9) ⌈/⌉ E.config.tamanioPagina : ℕ)) hpid hno fun hq =>
    (hmargen hq).of_iguales rfl rfl rfl rfl rfl
  have hcero : espacio [] ⌈/⌉ E.config.tamanioPagina = 0 := zero_ceilDiv _
  refine @memoryMemalloc_of_plan E s _ pid q k size [] hE _ huno hcota hplan ?_
  refine asignarMemalloc_solicitar_enFila hE haloja (by simp) hcota ?_
  rw [hcero, Nat.zero_mul]
  exact Nat.succ_pos _

def respuestas : ℕ → List ℕ → List Respuesta
  | _, [] => []
  | dir, size :: tamanios =>
    ⟨.exito, some (dir + 9), none⟩ :: respuestas (dir + (size + 9)) tamanios

theorem llamar_memalloc {direccion : ℕ} {post : Estado → Prop} {fault : Falla → Prop}
    (h : Spec (memoryMemalloc E pid size s)
      (fun r => r.1 = (.exito, some direccion) ∧ post r.2) fault) :
    Spec (llamar E (.memalloc pid size) s)
      (fun r => r.1 = ⟨.exito, some direccion, none⟩ ∧ post r.2) fault := by
  refine h.bind fun r hr => ?_
  obtain ⟨r, s'⟩ := r
  obtain ⟨rfl, hpost⟩ := hr
  exact ⟨rfl, hpost⟩

/-- Requests of a carpincho that has its blocks in a row. -/
theorem corrida_enFila (hE : SinRechazos E) (nuevos : List ℕ)
    (h : AlojaFila E pid q (k + cuenta E.config.tamanioPagina tamanios nuevos) tamanios s)
    (huno : ∀ x ∈ tamanios ++ nuevos, 1 ≤ x)
    (hcota : espacio (tamanios ++ nuevos) + E.config.tamanioPagina < 2 ^ 31) :
    Spec (run (llamar E) (nuevos.map (Llamada.memalloc pid)) s)
      (fun r => r.1 = respuestas (espacio tamanios) nuevos ∧
        AlojaFila E pid q k (tamanios ++ nuevos) r.2) (SinMargen q) := by
  induction nuevos generalizing s tamanios with
  | nil =>
    rw [List.append_nil]
    exact ⟨rfl, h.menos (Nat.le_add_right _ _)⟩
  | cons size nuevos ih =>
    rw [cuenta_cons E.config.pagina_pos, ← Nat.add_assoc] at h
    rw [List.append_cons] at huno hcota ⊢
    have hmenos : espacio (tamanios ++ [size]) ≤ espacio (tamanios ++ [size] ++ nuevos) := by
      simp [espacio]
    have hpaso := memoryMemalloc_enFila hE h (fun x hx => huno x (List.mem_append_left _ hx))
      (by omega)
    refine (llamar_memalloc hpaso).bind fun r hr => ?_
    refine (ih hr.2 huno hcota).bind fun rs hrs => ?_
    refine ⟨?_, hrs.2⟩
    rw [hr.1, hrs.1, espacio_concat]
    rfl

theorem margen_inicial (cfg : Config) (basura : ℕ → Pagina)
    (hk : cfg.cantidaEntradasTlb + k < 2 ^ 31) : Margen k (inicializarMemoria cfg basura) := by
  have hcero : 0 + k < 2 ^ 31 := by omega
  refine ⟨hcero, ?_, hcero, hcero, fun c hc => absurd hc List.not_mem_nil⟩
  unfold inicializarMemoria
  dsimp only
  split
  · exact hk
  · exact hcero

/-- Without frees the blocks of a new carpincho lie one after the other, in the order of the
requests, and it has just the pages that they need. Only the overflow of a counter stops it,
which takes more than two counts for each page and 36 for each call. -/
theorem memallocs_enFila (E : Entorno) (hE : SinRechazos E) (basura : ℕ → Pagina) (pid : ℤ)
    (hpid : 0 < pid) (tamanios : List ℕ) (huno : ∀ size ∈ tamanios, 1 ≤ size)
    (hcota : espacio tamanios + E.config.tamanioPagina < 2 ^ 31) :
    Spec (run (llamar E) (tamanios.map (Llamada.memalloc pid))
        (inicializarMemoria E.config basura))
      (fun r => r.1 = respuestas 0 tamanios ∧ allocsDe pid r.2 = enFila 0 tamanios ∧
        (paginasDe pid r.2).length = espacio tamanios ⌈/⌉ E.config.tamanioPagina)
      (fun e => e = .desbordamiento ∧
        2 ^ 31 ≤ E.config.cantidaEntradasTlb + 2 * (espacio tamanios ⌈/⌉ E.config.tamanioPagina) +
          36 * tamanios.length) := by
  have hrep := inicializarMemoria_representa hE.tlb basura
  cases tamanios with
  | nil => exact ⟨rfl, rfl, (zero_ceilDiv _).symm⟩
  | cons size nuevos =>
    have hP := E.config.pagina_pos
    have hmenos : espacio [size] ≤ espacio (size :: nuevos) := by
      simp [espacio]
    have htodo := cuenta_cons hP [] size nuevos
    let q := E.config.cantidaEntradasTlb +
      cuenta E.config.tamanioPagina [] (size :: nuevos) < 2 ^ 31
    have hcuenta : cuenta E.config.tamanioPagina [] (size :: nuevos) =
        2 * (espacio (size :: nuevos) ⌈/⌉ E.config.tamanioPagina) +
          36 * (size :: nuevos).length := by
      have hcero : espacio [] ⌈/⌉ E.config.tamanioPagina = 0 := zero_ceilDiv _
      rw [cuenta, hcero, Nat.sub_zero, List.nil_append]
    have hmargen : q → Margen (0 + cuenta E.config.tamanioPagina ([] ++ [size]) nuevos +
        cuenta E.config.tamanioPagina [] [size]) (inicializarMemoria E.config basura) := by
      intro hq
      apply margen_inicial
      have hq' : E.config.cantidaEntradasTlb +
        cuenta E.config.tamanioPagina [] (size :: nuevos) < 2 ^ 31 := hq
      omega
    have hpaso := memoryMemalloc_primera hE hrep hpid rfl (huno size List.mem_cons_self) hmargen
      (by omega)
    have hsin : ∀ e, SinMargen q e → e = .desbordamiento ∧ 2 ^ 31 ≤ E.config.cantidaEntradasTlb +
        2 * (espacio (size :: nuevos) ⌈/⌉ E.config.tamanioPagina) +
          36 * (size :: nuevos).length := by
      rintro e ⟨he, hq⟩
      refine ⟨he, ?_⟩
      rw [Nat.add_assoc, ← hcuenta]
      exact not_lt.1 hq
    refine Spec.mono ?_ (fun _ hr => hr) hsin
    refine (llamar_memalloc hpaso).bind fun r hr => ?_
    refine (corrida_enFila hE nuevos hr.2 huno hcota).bind fun rs hrs => ?_
    obtain ⟨hrespuestas, ⟨-, -, -, c, hc, hpaginas, hallocs⟩, -⟩ := hrs
    refine ⟨?_, ?_, ?_⟩
    · have hsuma : espacio ([] ++ [size]) = 0 + (size + 9) := (Nat.zero_add _).symm
      dsimp only
      rw [hr.1, hrespuestas, hsuma]
      rfl
    · rw [allocsDe_of_some hc]
      exact hallocs
    · rw [paginasDe_of_some hc]
      exact hpaginas

/-- Three blocks of one carpincho. -/
theorem memallocs_enFila_tresBloques :
    ∃ r, run (llamar (entornoFiel configHeap)) ([20, 30, 15].map (Llamada.memalloc 1))
        (inicializarMemoria configHeap fun _ => paginaNueva 0 0) = .ok r ∧
      r.1 = respuestas 0 [20, 30, 15] ∧ allocsDe 1 r.2 = enFila 0 [20, 30, 15] ∧
      (paginasDe 1 r.2).length = espacio [20, 30, 15] ⌈/⌉ 32 := by
  have hE : SinRechazos (entornoFiel configHeap) :=
    ⟨rfl, by decide, by decide, fun _ _ _ => one_ne_zero, fun _ _ _ => rfl⟩
  have hspec := memallocs_enFila (entornoFiel configHeap) hE (fun _ => paginaNueva 0 0) 1
    (by decide)
    [20, 30, 15] (by decide) (by decide)
  have hok : (run (llamar (entornoFiel configHeap)) ([20, 30, 15].map (Llamada.memalloc 1))
      (inicializarMemoria configHeap fun _ => paginaNueva 0 0)).isOk = true := by
    decide +kernel
  obtain ⟨r, hr⟩ := exists_of_isOk hok
  exact ⟨r, hr, hspec.post_of_eq hr⟩

end Corrida

section Estampas

variable {E : Entorno} {s s' : Estado} {pid : ℤ} {n size : ℕ}

theorem Marcha.crearPaginas_estampas (h : Marcha E s) (hs : crearPaginas E pid n s = .ok s')
    (hpos : 0 < n) : s.contadorTimestampTlb + n < 2 ^ 31 := by
  induction n generalizing s with
  | zero => exact absurd hpos (lt_irrefl 0)
  | succ n ih =>
    obtain ⟨⟨p, s₁⟩, hcrear, hs⟩ := bind_eq_ok.1 hs
    obtain ⟨hlt, hestampa⟩ := h.crea_estampa hcrear
    rcases Nat.eq_zero_or_pos n with rfl | hn
    · exact hlt
    · have hpaso : paso E (.createPagina pid) s = .ok (.pagina p, s₁) := by
        obtain ⟨c, -, -, -, -, -, -, hc, -⟩ := createPagina_cases hcrear
        obtain ⟨rfl, hmem⟩ := getCarpincho_pid hc
        unfold paso
        dsimp only
        rw [existCarpincho_of_mem hmem, if_pos rfl, hcrear, ok_bind]
      have hop : Nucleo.Admisible (.createPagina pid) := trivial
      have hresto := ih (h.llevada hop hpaso) hs hn
      omega

/-- The first block of a carpincho takes a stamp of the TLB for each of its pages. -/
theorem Marcha.memoryMemalloc_estampas (hE : SinRechazos E) (h : Marcha E s) (hpid : 0 < pid)
    (hno : getCarpincho pid s = none) (hsize : size + 9 < 2 ^ 31)
    {r : (StatusMemoryOp × Option ℕ) × Estado} (hs : memoryMemalloc E pid size s = .ok r) :
    s.contadorTimestampTlb + (size + 9) ⌈/⌉ E.config.tamanioPagina < 2 ^ 31 := by
  have hP := E.config.pagina_pos
  have hmarcha : ∀ m : ℤ, Marcha E (preguntado pid m s) := fun m =>
    ⟨h.toLibroNumerado.of_heaps rfl (h.toLibro.huella.of_tablas rfl), h.positivos, h.entradas⟩
  have hentero := aInt_of_range (x := (size : ℤ)) (by omega) (by omega)
  have hnat : ((size : ℤ) + 9 - 0).toNat = size + 9 := by omega
  unfold memoryMemalloc at hs
  rw [planificarMemalloc_primera hE hno hsize, ok_bind] at hs
  generalize hm : (size + 9) ⌈/⌉ E.config.tamanioPagina = m at hs ⊢
  obtain ⟨c, hc, hpaginas, hallocs⟩ := @getCarpincho_createCarpincho (preguntado pid m s) pid hno
  obtain ⟨⟨direccion, s₁⟩, hasignar, -⟩ := bind_eq_ok.1 hs
  obtain ⟨⟨d, s₂⟩, hnuevas, -⟩ := bind_eq_ok.1 hasignar
  unfold memallocAsignarEnPaginasNuevas carpinchoDe at hnuevas
  rw [hc, ok_bind, hallocs, hpaginas] at hnuevas
  have hcero : enInt (espacioTotal E.config ([] : List ℕ).length - 0) = .ok 0 := by
    rw [espacioTotal, List.length_nil, Nat.cast_zero, zero_mul, aInt_of_range (by omega) (by omega)]
    exact enInt_eq_ok.2 ⟨by omega, rfl⟩
  have hcalcular : calcularCantidadPaginasNecesaria E.config 0 size = .ok (m : ℤ) := by
    rw [calcularCantidadPaginas_ok (by omega) (by omega) (by omega) (by omega), hnat, hm]
  rw [sumarAllocs, ok_bind, hcero, ok_bind, hentero, hcalcular, ok_bind] at hnuevas
  obtain ⟨s₃, hpaginas, -⟩ := bind_eq_ok.1 hnuevas
  obtain ⟨s₄, hcrear, -⟩ := bind_eq_ok.1 hpaginas
  rw [Int.toNat_natCast] at hcrear
  have hcontador : (Memoria.createCarpincho pid (preguntado pid m s)).contadorTimestampTlb =
      s.contadorTimestampTlb := by
    unfold Memoria.createCarpincho
    split <;> rfl
  rw [← hcontador]
  refine ((hmarcha m).createCarpincho hpid).crearPaginas_estampas hcrear ?_
  have hbastan := (ceilDiv_bounds hP (n := size + 9)).1
  rw [hm] at hbastan
  exact Nat.pos_of_ne_zero fun h0 => by rw [h0, Nat.zero_mul] at hbastan; omega

def configMinima : Config where
  tamanio := 1
  tamanioPagina := 1
  tipoAsignacion := .dinamica
  algoritmoReemplazoMmu := .lru
  cantidaEntradasTlb := 2
  algoritmoReemplazoTlb := .lru
  marcosPorCarpincho := 1
  pagina_pos := by decide
  tamanio_lt := by decide
  pagina_lt := by decide

/-- The stamps of the TLB do not reach for every block whose bytes an `int` counts: the entries
have taken two of them when the first page is created. -/
theorem memallocs_sinEstampas : ¬ ∀ E : Entorno, SinRechazos E → ∀ (basura : ℕ → Pagina) (pid : ℤ),
    0 < pid → ∀ tamanios : List ℕ, (∀ size ∈ tamanios, 1 ≤ size) →
    espacio tamanios + E.config.tamanioPagina < 2 ^ 31 →
    ∃ r, run (llamar E) (tamanios.map (Llamada.memalloc pid))
        (inicializarMemoria E.config basura) = .ok r ∧
      r.1 = respuestas 0 tamanios ∧ allocsDe pid r.2 = enFila 0 tamanios ∧
      (paginasDe pid r.2).length = espacio tamanios ⌈/⌉ E.config.tamanioPagina := by
  intro hclaim
  have hE : SinRechazos (entornoFiel configMinima) :=
    ⟨rfl, by decide, by decide, fun _ _ _ => one_ne_zero, fun _ _ _ => rfl⟩
  have huno : ∀ size ∈ [2147483637], 1 ≤ size := by
    simp
  have hcota : espacio [2147483637] + 1 < 2 ^ 31 := by
    simp [espacio]
  obtain ⟨r, hr, -⟩ := hclaim (entornoFiel configMinima) hE (fun _ => paginaNueva 0 0) 1 one_pos
    [2147483637] huno hcota
  obtain ⟨⟨respuesta, s₁⟩, hllamar, -⟩ := bind_eq_ok.1 hr
  obtain ⟨⟨resultado, s₂⟩, hmemalloc, -⟩ := bind_eq_ok.1 hllamar
  have hlt := (marcha_inicial (entornoFiel configMinima) fun _ =>
    paginaNueva 0 0).memoryMemalloc_estampas hE one_pos rfl (by omega) hmemalloc
  have hP : (entornoFiel configMinima).config.tamanioPagina = 1 := rfl
  have hentradas : (inicializarMemoria (entornoFiel configMinima).config
      fun _ => paginaNueva 0 0).contadorTimestampTlb = 2 := rfl
  have hbastan := (ceilDiv_bounds (n := 2147483637 + 9) one_pos).1
  rw [hP, hentradas] at hlt
  omega

end Estampas

end Carpinchos.Memoria
