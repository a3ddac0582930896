import Carpinchos.Memoria.CopiaSwamp
import Carpinchos.Memoria.Envios
import Carpinchos.Sistema.Enlace

/-!
# A page is in memory or in SWAmP

Under LRU every victim is sent to SWAmP, and SWAmP forgets a page when it is read. With a
server in GLOBAL assignment that has a single file, the occupied slots are those of the
pages that are not in memory, one for each, as long as the four bytes that a read leaves in
the connection are not taken for an operation.
-/

namespace Carpinchos.Memoria.Nucleo

open Outcome Bytes Replacement Sistema

variable {C : Enlace} {π : Parametros} {n n' : Nucleo} {pid : ℤ} {p q k : ℕ}

section Definiciones

def fueraSalvo (k : ℕ) (n : Nucleo) : Set (ℤ × ℤ) :=
  {x | ∃ q, n.existe q ∧ (∀ j, j ≠ k → n.marcos j ≠ some q) ∧ n.nombre q = x}

def fuera (n : Nucleo) : Set (ℤ × ℤ) :=
  {x | ∃ q, n.existe q ∧ (∀ j, n.marcos j ≠ some q) ∧ n.nombre q = x}

/-- An LRU memory over this SWAmP, which has a single file. The frames of both are together as
many as an `int` counts. -/
structure Ajustada (C : Enlace) (π : Parametros) : Prop where
  lru : π.algoritmoReemplazoMmu = .lru
  unico : C.swamp.cantArchivos = 1
  pagina : C.swamp.tamanioPagina = π.tamanioPagina
  leer : π.leerSwamp = C.leer
  marcos_lt : π.cantidadMarcos + C.swamp.cantMarcos < 2 ^ 31

/-- Pids are positive values of an `int`. -/
def PidsEnteros (n : Nucleo) : Prop := ∀ c ∈ n.procesos, 0 < c.pid ∧ c.pid < 2 ^ 31

/-- SWAmP holds the pages that are in no frame. -/
structure Exclusiva (C : Enlace) (n : Nucleo) : Prop where
  contiene : C.Contiene n.mensajes n.fuera
  pids : n.PidsEnteros

/-- Frame `k` has passed to the page `p`, and SWAmP holds the pages outside the others. -/
structure Pasado (C : Enlace) (p : ℕ) (n : Nucleo) (k : ℕ) (n' : Nucleo) : Prop where
  paginas : MismasPaginas n n'
  marcos : n'.marcos = Function.update n.marcos k (some p)
  contiene : C.Contiene n'.mensajes (n.fueraSalvo k)
  inocua : C.Inocua n.mensajes → C.Inocua n'.mensajes

end Definiciones

section Desalojo

theorem Exclusiva.of_campos (h : Exclusiva C n) (hmarcos : n'.marcos = n.marcos)
    (hnombre : n'.nombre = n.nombre) (hmensajes : n'.mensajes = n.mensajes)
    (hprocesos : n'.procesos = n.procesos) : Exclusiva C n' := by
  constructor
  · have hfuera : n'.fuera = n.fuera := by
      simp only [fuera, existe, hmarcos, hnombre, hprocesos]
    rw [hmensajes, hfuera]
    exact h.contiene
  · intro c hc
    exact h.pids c (hprocesos ▸ hc)

theorem PidsEnteros.of_paginas (h : n.PidsEnteros) (hp : MismasPaginas n n') :
    n'.PidsEnteros := by
  intro c hc
  obtain ⟨d, hd, hpid, -⟩ := exists_proceso_of_map_eq hp.procesos hc
  exact hpid ▸ h d hd

theorem update_ne_some_iff {marcos : ℕ → Option ℕ} :
    (∀ j, Function.update marcos k (some p) j ≠ some q) ↔
      q ≠ p ∧ ∀ j, j ≠ k → marcos j ≠ some q := by
  constructor
  · intro h
    constructor
    · rintro rfl
      exact h k (Function.update_self _ _ _)
    · intro j hjk
      have hj := h j
      rwa [Function.update_of_ne hjk] at hj
  · rintro ⟨hqp, h⟩ j
    rcases eq_or_ne j k with rfl | hjk
    · rw [Function.update_self]
      exact fun heq => hqp (Option.some.inj heq).symm
    · rw [Function.update_of_ne hjk]
      exact h j hjk

theorem fueraSalvo_of_libre (hk : n.marcos k = none) : n.fueraSalvo k = n.fuera := by
  ext x
  refine exists_congr fun q => and_congr_right fun _ => and_congr_left fun _ => ?_
  constructor
  · intro h j hj
    refine h j ?_ hj
    rintro rfl
    rw [hk] at hj
    cases hj
  · exact fun h j _ => h j

theorem fueraSalvo_of_ocupado (hb : n.Bien π) {v : ℕ} (hk : n.marcos k = some v) :
    n.fueraSalvo k = insert (n.nombre v) n.fuera := by
  ext x
  rw [Set.mem_insert_iff]
  constructor
  · rintro ⟨q, hq, hfuera, rfl⟩
    rcases eq_or_ne q v with rfl | hqv
    · exact Or.inl rfl
    · refine Or.inr ⟨q, hq, fun j hj => ?_, rfl⟩
      rcases eq_or_ne j k with rfl | hjk
      · rw [hk] at hj
        exact hqv (Option.some.inj hj).symm
      · exact hfuera j hjk hj
  · rintro (rfl | ⟨q, hq, hfuera, rfl⟩)
    · exact ⟨v, hb.marcos.existe k v hk, fun j hjk hj => hjk (hb.marcos.inj j k v hj hk), rfl⟩
    · exact ⟨q, hq, fun j _ => hfuera j, rfl⟩

theorem nombre_not_mem_fuera (hb : n.Bien π) {v : ℕ} (hk : n.marcos k = some v) :
    n.nombre v ∉ n.fuera := by
  rintro ⟨q, hq, hfuera, hnombre⟩
  rw [hb.tablas.nombre_inj hq (hb.marcos.existe k v hk) hnombre] at hfuera
  exact hfuera k hk

theorem marco_or_mem_fuera (hq : n.existe q) :
    (∃ j, n.marcos j = some q) ∨ n.nombre q ∈ n.fuera := by
  by_cases hmarco : ∃ j, n.marcos j = some q
  · exact Or.inl hmarco
  · exact Or.inr ⟨q, hq, not_exists.1 hmarco, rfl⟩

theorem fuera_subset_fueraSalvo (k : ℕ) (n : Nucleo) : n.fuera ⊆ n.fueraSalvo k := by
  rintro x ⟨q, hq, hfuera, rfl⟩
  exact ⟨q, hq, fun j _ => hfuera j, rfl⟩

/-- A carpincho has no more pages than there are frames and slots, if each of its pages is in a
frame or in a slot. -/
theorem length_paginas_le (hA : Ajustada C π) (hb : n.Bien π) {S : Set (ℤ × ℤ)} {t : Swamp.Estado}
    (ht : Almacena C.swamp S t)
    (hS : ∀ q, n.existe q → (∃ j, n.marcos j = some q) ∨ n.nombre q ∈ S)
    {c : Proceso} (hc : c ∈ n.procesos) :
    c.paginas.length ≤ π.cantidadMarcos + C.swamp.cantMarcos := by
  let ocupante (x : ℕ) : Option (ℤ × ℤ) :=
    if x < π.cantidadMarcos then (n.marcos x).map n.nombre
    else Swamp.ranura t (x - π.cantidadMarcos)
  have hlugar : ∀ i, i < c.paginas.length → ∃ x, x < π.cantidadMarcos + C.swamp.cantMarcos ∧
      ocupante x = some (c.pid, (i : ℤ) + 1) := by
    intro i hi
    have hnombre := hb.tablas.nombre c hc i hi
    rcases hS _ ⟨c, hc, List.getElem_mem hi⟩ with ⟨j, hj⟩ | hfuera
    · have hlt := hb.marcos.lt j _ hj
      refine ⟨j, by omega, ?_⟩
      simp only [ocupante, if_pos hlt, hj, Option.map_some, hnombre]
    · obtain ⟨j, hj⟩ := (ht.holds _).2 hfuera
      have hlt := ht.bien.lt_length hj
      rw [hA.unico, Nat.mul_one] at hlt
      refine ⟨π.cantidadMarcos + j, by omega, ?_⟩
      simp only [ocupante, if_neg (Nat.not_lt.2 (Nat.le_add_right _ j)), Nat.add_sub_cancel_left,
        hj, hnombre]
  choose! lugar hlugar using hlugar
  have hcard := Finset.card_le_card_of_injOn (s := Finset.range c.paginas.length)
    (t := Finset.range (π.cantidadMarcos + C.swamp.cantMarcos)) lugar
    (fun i hi => Finset.mem_coe.2 (Finset.mem_range.2 (hlugar i (Finset.mem_range.1 hi)).1))
    (fun i hi j hj hij => by
      have hi' := (hlugar i (by simpa using hi)).2
      rw [hij, (hlugar j (by simpa using hj)).2] at hi'
      have hpar := congrArg Prod.snd (Option.some.inj hi')
      dsimp only at hpar
      omega)
  simpa using hcard

/-- The name of a page is one of two positive values of an `int`. -/
theorem nombrable (hA : Ajustada C π) (hb : n.Bien π) (hpids : n.PidsEnteros) {S : Set (ℤ × ℤ)}
    (hS : ∀ q, n.existe q → (∃ j, n.marcos j = some q) ∨ n.nombre q ∈ S) (hp : n.existe p) :
    C.Nombrable S (n.nombre p).1 (n.nombre p).2 := by
  obtain ⟨c, hc, hp⟩ := hp
  obtain ⟨i, hi, rfl⟩ := List.getElem_of_mem hp
  have hpid := hpids c hc
  rw [hb.tablas.nombre c hc i hi]
  refine ⟨hpid.1, hpid.2, by positivity, fun t ht => ?_⟩
  have hlargo := length_paginas_le hA hb ht hS hc
  have hmarcos := hA.marcos_lt
  dsimp only
  omega

theorem desalojarPara_pasado (hA : Ajustada C π) (h : Exclusiva C n) (hb : n.Bien π) (pid : ℤ)
    (p : ℕ) :
    Spec (n.desalojarPara π pid p) (fun r => Pasado C p n r.1 r.2) (· = .candidatosVacios) := by
  refine (desalojarPara_spec hb pid p).mono (fun r hr => ?_) fun _ he => he
  obtain ⟨v, m, hd⟩ := hr
  have hmensajes : r.2.mensajes = n.mensajes ++
      [.escritura (n.nombre v).1 (n.nombre v).2
        (slice m.cache (r.1 * π.tamanioPagina) π.tamanioPagina)] := by
    rw [hd.eq, ← hd.elegida.mensajes, ← hd.elegida.nombre]
    unfold reemplazar guardar
    rw [if_neg (by simp [hA.lru])]
  have hnombrable := nombrable hA hb h.pids (fun q => marco_or_mem_fuera)
    (hb.marcos.existe _ v hd.marco)
  refine ⟨hd.paginas, hd.marcos_eq, ?_, fun hinocua => ?_⟩
  · rw [hmensajes, fueraSalvo_of_ocupado hb hd.marco]
    exact h.contiene.escritura hnombrable (nombre_not_mem_fuera hb hd.marco)
      ((length_slice _ _ _).trans hA.pagina.symm)
  · rw [hmensajes]
    exact hinocua.concat rfl

end Desalojo

section Acceso

/-- A page fault takes the page out of SWAmP. -/
theorem recuperar_exclusiva (hA : Ajustada C π) (h : Exclusiva C n)
    (hinocua : C.Inocua n.mensajes) (hb : n.Bien π) (hp : n.existe p)
    (hfuera : ∀ j, n.marcos j ≠ some p) :
    Spec (n.recuperar π p) (fun r => Exclusiva C r.2) (· = .candidatosVacios) := by
  refine (desalojarPara_pasado hA h hb (n.nombre p).1 p).bind fun r hr => ?_
  obtain ⟨k, n₁⟩ := r
  have hnombre : n₁.nombre = n.nombre := hr.paginas.nombre
  have hmarcos : n₁.marcos = Function.update n.marcos k (some p) := hr.marcos
  have hesta : n.nombre p ∈ n.fueraSalvo k := ⟨p, hp, fun j _ => hfuera j, rfl⟩
  have hnombrable : C.Nombrable (n.fueraSalvo k) (n.nombre p).1 (n.nombre p).2 :=
    nombrable hA hb h.pids
      (fun q hq => (marco_or_mem_fuera hq).imp_right fun hq => fuera_subset_fueraSalvo k n hq) hp
  obtain ⟨contenido, hcontenido⟩ := Option.isSome_iff_exists.1
    (hr.contiene.leer_isSome (hr.inocua hinocua) hA.unico hnombrable hesta)
  simp only [hnombre, hA.leer, hcontenido]
  have hquita : n.fueraSalvo k \ {n.nombre p} = n₁.fuera := by
    ext x
    simp only [fuera, hmarcos, hnombre, update_ne_some_iff,
      existe_of_map_eq hr.paginas.procesos]
    constructor
    · rintro ⟨⟨q, hq, hqfuera, rfl⟩, hne⟩
      refine ⟨q, hq, ⟨?_, hqfuera⟩, rfl⟩
      rintro rfl
      exact hne rfl
    · rintro ⟨q, hq, ⟨hqp, hqfuera⟩, rfl⟩
      exact ⟨⟨q, hq, hqfuera, rfl⟩, fun heq => hqp (hb.tablas.nombre_inj hq hp heq)⟩
  have hlectura := hr.contiene.lectura hA.unico hnombrable hesta
  rw [Prod.mk.eta, hquita] at hlectura
  have hpids : n₁.PidsEnteros := h.pids.of_paginas hr.paginas
  exact ⟨by simpa only [fuera, existe, hnombre] using hlectura, hpids⟩

theorem traer_exclusiva (hA : Ajustada C π) (h : Exclusiva C n) (hinocua : C.Inocua n.mensajes)
    (hb : n.Bien π) (hp : n.existe p) :
    Spec (n.traer π p) (fun r => Exclusiva C r.2) (· = .candidatosVacios) := by
  unfold traer
  split
  · exact h
  · next hnone =>
    exact recuperar_exclusiva hA h hinocua hb hp fun j hj =>
      marcoDe_eq_none.1 hnone j (hb.marcos.lt j p hj) hj

theorem Exclusiva.marcar (h : Exclusiva C n) (esEscritura : Bool) (p : ℕ) :
    Exclusiva C (n.marcar π esEscritura p) := by
  unfold Nucleo.marcar
  split <;> exact h.of_campos rfl rfl rfl rfl

end Acceso

section Creacion

theorem Exclusiva.nombrar (h : Exclusiva C n) (hb : n.Bien π) (pid numero : ℤ) :
    Exclusiva C (n.nombrar pid numero) := by
  have hfuera : (n.nombrar pid numero).fuera = n.fuera := by
    ext x
    refine exists_congr fun q => and_congr_right fun hq => and_congr_right fun _ => ?_
    rw [nombrar_nombre_of_existe hb hq]
  exact ⟨hfuera ▸ h.contiene, h.pids⟩

theorem alojarNueva_pasado (hA : Ajustada C π) (h : Exclusiva C n) (hb : n.Bien π) (pid : ℤ)
    (p : ℕ) :
    Spec (n.alojarNueva π pid p) (fun r => Pasado C p n r.1 r.2) (· = .candidatosVacios) := by
  unfold alojarNueva
  cases hpuede : n.puedeTomarMarco π pid with
  | true =>
    obtain ⟨k, hk⟩ : ∃ k, n.marcoLibre π = some k := by
      rw [puedeTomarMarco, Bool.and_eq_true] at hpuede
      exact Option.isSome_iff_exists.1 hpuede.1
    simp only [if_true, hk]
    refine ⟨⟨rfl, rfl, rfl⟩, rfl, ?_, id⟩
    rw [fueraSalvo_of_libre (marcoLibre_some hk).2]
    exact h.contiene
  | false =>
    simp only [Bool.false_eq_true, if_false]
    exact desalojarPara_pasado hA h hb pid p

/-- A new page enters memory, and leaves in SWAmP the pages that are not there. -/
theorem crear_exclusiva (hA : Ajustada C π) (h : Exclusiva C n) (hb : n.Bien π) (pid : ℤ) :
    Spec (n.crear π pid) (fun r => Exclusiva C r.2) SinRechazo := by
  unfold crear
  split
  · exact fun he => by cases he
  · next c hc =>
    obtain ⟨hcmem, hcpid⟩ := proceso_some hc
    have hbien : (n.nombrar pid (c.paginas.length + 1)).Bien π := nombrar_bien hb
    refine ((alojarNueva_pasado hA (h.nombrar hb pid (c.paginas.length + 1)) hbien pid
      n.proximoPtr).mono (fun _ hr => hr) ?_).bind fun r hr => ?_
    · rintro e rfl he
      cases he
    · obtain ⟨d, hd, hdpid, -⟩ := exists_proceso_of_map_eq hr.paginas.procesos.symm hcmem
      have hfuera : (r.2.registrar π pid n.proximoPtr).fuera =
          (n.nombrar pid (c.paginas.length + 1)).fueraSalvo r.1 := by
        ext x
        simp only [fuera, registrar_marcos, registrar_nombre, hr.marcos, hr.paginas.nombre,
          update_ne_some_iff, existe_registrar hd (hdpid.trans hcpid),
          existe_of_map_eq hr.paginas.procesos]
        refine exists_congr fun q => ?_
        constructor
        · rintro ⟨hq, ⟨hqp, hqfuera⟩, hx⟩
          exact ⟨hq.resolve_right hqp, hqfuera, hx⟩
        · rintro ⟨hq, hqfuera, hx⟩
          refine ⟨Or.inl hq, ⟨?_, hqfuera⟩, hx⟩
          rintro rfl
          exact no_existe_proximoPtr hb.tablas hq
      refine ⟨?_, fun c' hc' => ?_⟩
      · simp only [registrar_mensajes, hfuera]
        exact hr.contiene
      · simp only [registrar_procesos] at hc'
        obtain ⟨e, he, rfl⟩ := List.mem_map.1 hc'
        have hpids := (h.nombrar hb pid _).pids.of_paginas hr.paginas e he
        split <;> exact hpids

end Creacion

section Pasos

/-- Carpinchos have positive pids that fit in an `int`. -/
def PidEntero : Operacion → Prop
  | .createCarpincho pid => 0 < pid ∧ pid < 2 ^ 31
  | _ => True

theorem PidEntero.admisible {op : Operacion} (h : PidEntero op) : Admisible op := by
  cases op with
  | createCarpincho pid => exact h.1
  | createPagina pid => trivial
  | leerEnPagina pid pagina tamanio offset => trivial
  | escribirEnPagina pid pagina buffer offset => trivial

theorem crearProceso_exclusiva (h : Exclusiva C n) (hpid : 0 < pid ∧ pid < 2 ^ 31) :
    Exclusiva C (n.crearProceso pid) := by
  unfold crearProceso
  split
  · exact h
  · constructor
    · have hfuera : fuera { n with procesos := n.procesos ++
          [{ pid := pid, puntero := 0, paginas := [] }] } = n.fuera := by
        simp only [fuera, existe, List.mem_append, List.mem_singleton, or_and_right, exists_or,
          exists_eq_left, List.not_mem_nil, or_false]
      rw [hfuera]
      exact h.contiene
    · intro c hc
      rcases List.mem_append.1 hc with hc | hc
      · exact h.pids c hc
      · obtain rfl := List.mem_singleton.1 hc
        exact hpid

theorem leer_exclusiva (hA : Ajustada C π) (h : Exclusiva C n) (hinocua : C.Inocua n.mensajes)
    (hb : n.Bien π) (hp : n.existe p) (tamanio offset : ℕ) :
    Spec (n.leer π p tamanio offset) (fun r => Exclusiva C r.2) SinRechazo := by
  refine ((traer_exclusiva hA h hinocua hb hp).mono (fun _ hr => hr) ?_).bind fun r hr => ?_
  · rintro e rfl he
    cases he
  · cases alcance π.tamanioPagina offset tamanio with
    | enPagina => exact hr.marcar _ _
    | rechazado => exact hr.marcar _ _
    | fuera => exact fun he => by cases he

theorem escribir_exclusiva (hA : Ajustada C π) (h : Exclusiva C n)
    (hinocua : C.Inocua n.mensajes) (hb : n.Bien π) (hp : n.existe p) (buffer : List UInt8)
    (offset : ℕ) :
    Spec (n.escribir π p buffer offset) (fun r => Exclusiva C r.2) SinRechazo := by
  refine ((traer_exclusiva hA h hinocua hb hp).mono (fun _ hr => hr) ?_).bind fun r hr => ?_
  · rintro e rfl he
    cases he
  · cases alcance π.tamanioPagina offset buffer.length with
    | enPagina =>
      have hcopia : Exclusiva C { r.2 with
          cache := copy r.2.cache (r.1 * π.tamanioPagina + offset) buffer } :=
        hr.of_campos rfl rfl rfl rfl
      exact hcopia.marcar _ _
    | rechazado => exact hr.marcar _ _
    | fuera => exact fun he => by cases he

theorem paso_exclusiva (hA : Ajustada C π) (h : Exclusiva C n) (hinocua : C.Inocua n.mensajes)
    (hb : n.Bien π) {op : Operacion} (hop : PidEntero op) :
    Spec (n.paso π op) (fun r => Exclusiva C r.2) SinRechazo := by
  have hbuscar : ∀ pid pagina, Spec (n.buscar pid pagina) n.existe SinRechazo := by
    intro pid pagina
    refine (buscar_spec pid pagina).mono (fun _ hp => hp.1) ?_
    rintro e rfl he
    cases he
  cases op with
  | createCarpincho pid => exact crearProceso_exclusiva h hop
  | createPagina pid => exact (crear_exclusiva hA h hb pid).bind fun r hr => hr
  | leerEnPagina pid pagina tamanio offset =>
    refine (hbuscar pid pagina).bind fun p hp => ?_
    exact (leer_exclusiva hA h hinocua hb hp tamanio offset).bind fun r hr => hr
  | escribirEnPagina pid pagina buffer offset =>
    refine (hbuscar pid pagina).bind fun p hp => ?_
    exact (escribir_exclusiva hA h hinocua hb hp buffer offset).bind fun r hr => hr

theorem inicial_exclusiva (C : Enlace) : Exclusiva C inicial := by
  have hvacio : inicial.fuera = ∅ := by
    refine Set.eq_empty_of_forall_notMem ?_
    rintro x ⟨q, ⟨c, hc, -⟩, -⟩
    simp [inicial] at hc
  refine ⟨hvacio ▸ contiene_nil C, ?_⟩
  intro c hc
  simp [inicial] at hc

end Pasos

end Carpinchos.Memoria.Nucleo

namespace Carpinchos.Sistema

open Outcome Runs Slots Swamp Memoria.Nucleo

variable {C : Enlace} {E : Memoria.Entorno} {s : Memoria.Estado} {t : Estado}
  {n : Memoria.Nucleo}

def ausentes (s : Memoria.Estado) : Set ℕ :=
  {p | Memoria.existePagina p s ∧ (s.descriptor p).bitPresencia = false}

def claveDe (s : Memoria.Estado) (p : ℕ) : ℤ × ℤ :=
  ((s.descriptor p).carpinchoPid, (s.descriptor p).pagina)

def ocupadas (t : Estado) : Set ℕ := {i | ∃ m, t.marcos[i]? = some m ∧ m.indice ≠ -1}

/-- The occupied slots are in bijection with the pages that are not in memory, each page
having the only slot recorded with its pid and number; a page in memory has none. -/
structure CacheExclusiva (s : Memoria.Estado) (t : Estado) : Prop where
  biyeccion : ∃ lugar, Set.BijOn lugar (ausentes s) (ocupadas t) ∧
    ∀ p ∈ ausentes s, ∀ i, ranura t i = some (claveDe s p) ↔ i = lugar p
  presentes : ∀ p, Memoria.existePagina p s → (s.descriptor p).bitPresencia = true →
    ∀ i, ranura t i ≠ some (claveDe s p)

theorem mem_ocupadas {i : ℕ} : i ∈ ocupadas t ↔ ∃ k, ranura t i = some k := by
  constructor
  · rintro ⟨m, hm, hindice⟩
    exact ⟨(m.pid, m.indice), by rw [ranura, hm, Option.bind_some, Marco.ocupante, if_neg hindice]⟩
  · rintro ⟨k, hk⟩
    obtain ⟨m, hm, hindice, -⟩ := exists_of_ranura hk
    exact ⟨m, hm, hindice⟩

theorem claveDe_eq (h : Memoria.Representa E s n) {p : ℕ} (hp : n.existe p) :
    claveDe s p = n.nombre p := by
  have hn := h.sim.nombradas p hp
  exact Prod.ext hn.pid hn.pagina

theorem mem_ausentes (h : Memoria.Representa E s n) {p : ℕ} :
    p ∈ ausentes s ↔ n.existe p ∧ ∀ j, n.marcos j ≠ some p := by
  unfold ausentes
  rw [Set.mem_ofPred_eq, h.sim.existe_iff]
  refine and_congr_right fun hp => ?_
  have hpresencia := (h.sim.ubicadas p hp).presencia
  rw [← Bool.not_eq_true, hpresencia, not_exists]

theorem Almacena.cacheExclusiva {cfg : Config} (ht : Almacena cfg n.fuera t)
    (h : Memoria.Representa E s n) : CacheExclusiva s t := by
  have hinj : ∀ p ∈ ausentes s, ∀ q ∈ ausentes s, claveDe s p = claveDe s q → p = q := by
    intro p hp q hq hpq
    have hpn := ((mem_ausentes h).1 hp).1
    have hqn := ((mem_ausentes h).1 hq).1
    rw [claveDe_eq h hpn, claveDe_eq h hqn] at hpq
    exact h.bien.tablas.nombre_inj hpn hqn hpq
  have htiene : ∀ p ∈ ausentes s, Holds (ranura t) (claveDe s p) := by
    intro p hp
    obtain ⟨hpn, hfuera⟩ := (mem_ausentes h).1 hp
    rw [ht.holds, claveDe_eq h hpn]
    exact ⟨p, hpn, hfuera, rfl⟩
  choose! lugar hlugar using htiene
  have hunico : ∀ p ∈ ausentes s, ∀ i, ranura t i = some (claveDe s p) ↔ i = lugar p := by
    intro p hp i
    constructor
    · intro hi
      exact ht.unica i _ _ hi (hlugar p hp)
    · rintro rfl
      exact hlugar p hp
  refine ⟨⟨lugar, ⟨?_, ?_, ?_⟩, hunico⟩, ?_⟩
  · intro p hp
    exact mem_ocupadas.2 ⟨_, hlugar p hp⟩
  · intro p hp q hq hpq
    have hq' := hlugar q hq
    rw [← hpq, hlugar p hp] at hq'
    exact hinj p hp q hq (Option.some.inj hq')
  · intro i hi
    obtain ⟨k, hk⟩ := mem_ocupadas.1 hi
    obtain ⟨p, hp, hfuera, rfl⟩ := (ht.holds k).1 ⟨i, hk⟩
    have hpa := (mem_ausentes h).2 ⟨hp, hfuera⟩
    rw [← claveDe_eq h hp] at hk
    exact ⟨p, hpa, ((hunico p hpa i).1 hk).symm⟩
  · intro p hp hpresente i hi
    have hpn := h.sim.existe_iff.1 hp
    rw [claveDe_eq h hpn] at hi
    obtain ⟨q, hq, hfuera, hnombre⟩ := (ht.holds _).1 ⟨i, hi⟩
    obtain rfl := h.bien.tablas.nombre_inj hq hpn hnombre
    obtain ⟨j, hj⟩ := (h.sim.ubicadas q hpn).presencia.1 hpresente
    exact hfuera j hj

/-- In every state that the paging calls lead to under LRU, SWAmP has exactly the pages that
are not in memory, each in one slot, if no read left the code of an operation behind. -/
theorem corrida_cacheExclusiva (hpagina : C.swamp.tamanioPagina = E.config.tamanioPagina)
    (huno : C.swamp.cantArchivos = 1) (hlru : E.config.algoritmoReemplazoMmu = .lru)
    (hmarcos : E.config.cantidadMarcos + C.swamp.cantMarcos < 2 ^ 31)
    (htlb : 0 < E.config.cantidaEntradasTlb) (basura : ℕ → Memoria.Pagina)
    {ops : List Memoria.Operacion} (hops : ∀ op ∈ ops, PidEntero op)
    {resultados : List Memoria.Resultado}
    (hrun : run (Memoria.paso (C.entorno E hpagina)) ops
      (Memoria.inicializarMemoria E.config basura) = .ok (resultados, s))
    (hespacio : C.HayEspacio s.mensajes) (hinocua : C.Inocua s.mensajes) :
    ∃ l, C.linea s.mensajes = .ok l ∧ CacheExclusiva s l.servidor := by
  have hA : Ajustada C (C.entorno E hpagina).parametros := ⟨hlru, huno, hpagina, rfl, hmarcos⟩
  have hpaso : ∀ op s, PidEntero op →
      (C.Inocua s.mensajes →
        ∃ n, Memoria.Representa (C.entorno E hpagina) s n ∧ Exclusiva C n) →
      Spec (Memoria.paso (C.entorno E hpagina) op s)
        (fun r => C.Inocua r.2.mensajes →
          ∃ n, Memoria.Representa (C.entorno E hpagina) r.2 n ∧ Exclusiva C n)
        (fun _ => True) := by
    intro op s hop h
    refine spec_of_ok fun r hr hr' => ?_
    have hs : C.Inocua s.mensajes := hr'.of_prefix (Memoria.paso_mensajes hr)
    obtain ⟨n, hrep, hn⟩ := h hs
    have hmensajes : s.mensajes = n.mensajes := hrep.sim.mensajes
    have hagree := Memoria.paso_sim hrep hop.admisible
    have hspec := paso_exclusiva hA hn (hmensajes ▸ hs) hrep.bien hop
    rw [hr] at hagree
    cases hnucleo : n.paso (C.entorno E hpagina).parametros op with
    | error e =>
      rw [hnucleo] at hagree hspec
      exact absurd hagree hspec
    | ok r' =>
      rw [hnucleo] at hagree hspec
      exact ⟨r'.2, hagree.2, hspec⟩
  have hinicial : ∃ n, Memoria.Representa (C.entorno E hpagina)
      (Memoria.inicializarMemoria E.config basura) n ∧ Exclusiva C n :=
    ⟨Memoria.Nucleo.inicial,
      Memoria.inicializarMemoria_representa (E := C.entorno E hpagina) htlb basura,
      inicial_exclusiva C⟩
  obtain ⟨n, hrep, hn⟩ :=
    (run_invariant hpaso ops _ hops fun _ => hinicial).post_of_eq hrun hinocua
  have hmensajes : s.mensajes = n.mensajes := hrep.sim.mensajes
  rw [hmensajes] at hinocua hespacio ⊢
  obtain ⟨l, hl⟩ := hn.contiene.sigue hinocua hespacio
  exact ⟨l, hl, (hn.contiene.guarda hinocua l hl).2.cacheExclusiva hrep⟩

/-- A SWAmP with four slots of two bytes in one file. Of the four bytes that a read leaves over
the first is `resto` and the others are zero. -/
def enlaceChico (resto : UInt8) : Enlace where
  swamp :=
    { archivosSwamp := ["swap1"], tamanioSwamp := 8, tamanioPagina := 2, marcosMaximos := 2,
      archivos_ne := List.cons_ne_nil _ _, archivos_nodup := List.nodup_singleton _,
      pagina_pos := Nat.zero_lt_two }
  pidInicial := fun _ => 0
  basura := fun _ => { contenido := fun _ => 0, buffer := fun _ => 0 }
  ajena := fun _ => [45]
  sobra := fun _ j => if j = 0 then resto else 0
  ajena_lt := fun _ => by decide

def correrChico (resto : UInt8) (ops : List Memoria.Operacion) :
    Except Memoria.Falla (List Memoria.Resultado × Memoria.Estado) :=
  run (Memoria.paso ((enlaceChico resto).entorno
      (Memoria.entornoFiel (Memoria.configChica .lru .lru)) rfl)) ops
    (Memoria.inicializarMemoria (Memoria.configChica .lru .lru) fun _ => Memoria.paginaNueva 0 0)

/-- Three pages in two frames: the first one is evicted and brought back. -/
theorem corrida_cacheExclusiva_tresPaginas :
    ∃ resultados s l, correrChico 0 [.createCarpincho 1, .createPagina 1, .createPagina 1,
        .createPagina 1, .leerEnPagina 1 1 1 0] = .ok (resultados, s) ∧
      (enlaceChico 0).linea s.mensajes = .ok l ∧ CacheExclusiva s l.servidor := by
  obtain ⟨⟨resultados, s⟩, hrun, hmensajes⟩ := exists_of_returns (show returns
    (correrChico 0 [.createCarpincho 1, .createPagina 1, .createPagina 1, .createPagina 1,
      .leerEnPagina 1 1 1 0])
    (fun r => decide ((enlaceChico 0).HayEspacio r.2.mensajes ∧
      (enlaceChico 0).Inocua r.2.mensajes)) = true by decide +kernel)
  obtain ⟨hespacio, hinocua⟩ := of_decide_eq_true hmensajes
  obtain ⟨l, hl, hexclusiva⟩ := corrida_cacheExclusiva (C := enlaceChico 0)
    (E := Memoria.entornoFiel (Memoria.configChica .lru .lru)) rfl (by decide) rfl (by decide)
    (by decide) _ (by simp [PidEntero]) hrun hespacio hinocua
  exact ⟨resultados, s, l, hrun, hl, hexclusiva⟩

theorem no_cacheExclusiva {p : ℕ} (hp : p ∈ ausentes s)
    (hno : ∀ m ∈ t.marcos, m.ocupante ≠ some (claveDe s p)) : ¬ CacheExclusiva s t := by
  rintro ⟨⟨lugar, -, hunico⟩, -⟩
  obtain ⟨m, hm, hocupante⟩ := Option.bind_eq_some_iff.1 ((hunico p hp (lugar p)).2 rfl)
  exact hno m (List.mem_of_getElem? hm) hocupante

/-- A read that leaves the code of a read over: the next page that is evicted is in no slot. -/
theorem pagina_en_ningun_lado :
    ∃ resultados s l, correrChico 11 [.createCarpincho 1, .createPagina 1, .createPagina 1,
        .createPagina 1, .leerEnPagina 1 1 1 0, .createPagina 1] = .ok (resultados, s) ∧
      (enlaceChico 11).HayEspacio s.mensajes ∧ (enlaceChico 11).linea s.mensajes = .ok l ∧
      ¬ CacheExclusiva s l.servidor := by
  obtain ⟨⟨resultados, s⟩, hrun, hmensajes⟩ := exists_of_returns (show returns
    (correrChico 11 [.createCarpincho 1, .createPagina 1, .createPagina 1, .createPagina 1,
      .leerEnPagina 1 1 1 0, .createPagina 1])
    (fun r => decide ((enlaceChico 11).HayEspacio r.2.mensajes) &&
      decide ((∃ c ∈ r.2.carpinchosList, 2 ∈ c.paginas) ∧
        (r.2.descriptor 2).bitPresencia = false) &&
      returns ((enlaceChico 11).linea r.2.mensajes) (fun l =>
        decide (∀ m ∈ l.servidor.marcos, m.ocupante ≠ some (claveDe r.2 2)))) = true by
    decide +kernel)
  rw [Bool.and_eq_true, Bool.and_eq_true] at hmensajes
  obtain ⟨⟨hespacio, hausente⟩, hlinea⟩ := hmensajes
  obtain ⟨l, hl, hlibre⟩ := exists_of_returns hlinea
  obtain ⟨hexiste, hpresencia⟩ := of_decide_eq_true hausente
  have hausente : 2 ∈ ausentes s := ⟨hexiste, hpresencia⟩
  exact ⟨resultados, s, l, hrun, of_decide_eq_true hespacio, hl,
    no_cacheExclusiva hausente (of_decide_eq_true hlibre)⟩

end Carpinchos.Sistema
