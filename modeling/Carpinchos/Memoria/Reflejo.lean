import Carpinchos.Memoria.EnFila
import Carpinchos.Memoria.Plana
import Carpinchos.Memoria.Solitario

/-!
# The paged memory as one flat memory for each carpincho

What a state of the module is to each carpincho: its questions to SWAmP, its blocks, and the
bytes of its pages one after the other, wherever they are. Under LRU, with a SWAmP that gives
back what it was sent, the paging functions do to this view what their names say.
-/

namespace Carpinchos.Memoria

open Outcome Bytes Estado

section Consultas

def consultasDe (pid : ℤ) (mensajes : List Mensaje) : List ℤ :=
  mensajes.filterMap fun m =>
    match m with
    | .consulta q cantPag => if q = pid then some cantPag else none
    | _ => none

variable {pid q : ℤ} {mensajes : List Mensaje}

@[simp] theorem consultasDe_append_escritura (r pagina : ℤ) (contenido : List UInt8) :
    consultasDe pid (mensajes ++ [.escritura r pagina contenido]) = consultasDe pid mensajes := by
  simp [consultasDe]

@[simp] theorem consultasDe_append_lectura (r pagina : ℤ) :
    consultasDe pid (mensajes ++ [.lectura r pagina]) = consultasDe pid mensajes := by
  simp [consultasDe]

theorem consultasDe_append_consulta (cantPag : ℤ) :
    consultasDe pid (mensajes ++ [.consulta pid cantPag]) =
      consultasDe pid mensajes ++ [cantPag] := by
  simp [consultasDe]

theorem consultasDe_append_ajena (hq : q ≠ pid) (cantPag : ℤ) :
    consultasDe q (mensajes ++ [.consulta pid cantPag]) = consultasDe q mensajes := by
  simp [consultasDe, hq.symm]

end Consultas

namespace Nucleo

variable {π : Parametros} {n n' n'' : Nucleo} {pid : ℤ} {p : ℕ}

def SinConsultas (n n' : Nucleo) : Prop :=
  ∀ pid, consultasDe pid n'.mensajes = consultasDe pid n.mensajes

theorem SinConsultas.trans (h : SinConsultas n n') (h' : SinConsultas n' n'') :
    SinConsultas n n'' :=
  fun pid => (h' pid).trans (h pid)

variable (hlru : π.algoritmoReemplazoMmu = .lru)
include hlru

theorem desalojarPara_consultas (hb : n.Bien π) (pid : ℤ) (p : ℕ) :
    Spec (n.desalojarPara π pid p) (fun r => SinConsultas n r.2) fun _ => True := by
  refine (desalojarPara_spec hb pid p).mono (fun r hr => ?_) fun _ _ => trivial
  obtain ⟨v, m, hd⟩ := hr
  intro q
  rw [hd.eq, reemplazar_mensajes hlru, consultasDe_append_escritura, hd.elegida.mensajes]

theorem traer_consultas (hb : n.Bien π) (p : ℕ) :
    Spec (n.traer π p) (fun r => SinConsultas n r.2) fun _ => True := by
  unfold traer
  split
  · exact fun _ => rfl
  · refine (desalojarPara_consultas hlru hb _ p).bind fun r hr => ?_
    obtain ⟨k, n₁⟩ := r
    dsimp only
    split
    · exact trivial
    · exact fun q => (consultasDe_append_lectura _ _).trans (hr q)

theorem marcar_consultas (esEscritura : Bool) (p : ℕ) :
    SinConsultas n (n.marcar π esEscritura p) := by
  intro q
  rw [marcar, hlru]

theorem leer_consultas (hb : n.Bien π) (p tamanio offset : ℕ) :
    Spec (n.leer π p tamanio offset) (fun r => SinConsultas n r.2) fun _ => True := by
  refine (traer_consultas hlru hb p).bind fun r hr => ?_
  obtain ⟨k, n₁⟩ := r
  dsimp only
  split
  · exact hr.trans (marcar_consultas hlru false p)
  · exact hr.trans (marcar_consultas hlru false p)
  · exact trivial

theorem escribir_consultas (hb : n.Bien π) (p : ℕ) (buffer : List UInt8) (offset : ℕ) :
    Spec (n.escribir π p buffer offset) (fun r => SinConsultas n r.2) fun _ => True := by
  refine (traer_consultas hlru hb p).bind fun r hr => ?_
  obtain ⟨k, n₁⟩ := r
  dsimp only
  split
  · refine SinConsultas.trans ?_ (marcar_consultas hlru true p)
    exact hr
  · exact hr.trans (marcar_consultas hlru true p)
  · exact trivial

theorem crear_consultas (hb : n.Bien π) (pid : ℤ) :
    Spec (n.crear π pid) (fun r => SinConsultas n r.2) fun _ => True := by
  have halojar : ∀ m : Nucleo, m.Bien π → m.mensajes = n.mensajes →
      Spec (m.alojarNueva π pid n.proximoPtr) (fun r => SinConsultas n r.2) fun _ => True := by
    intro m hm hmensajes
    unfold alojarNueva
    split
    · split
      · exact trivial
      · exact fun q => congrArg (consultasDe q) hmensajes
    · refine (desalojarPara_consultas hlru hm pid n.proximoPtr).mono (fun r hr q => ?_)
        fun _ he => he
      rw [hr q, hmensajes]
  unfold crear
  split
  · exact trivial
  · next c _ =>
    refine (halojar _ (nombrar_bien hb) rfl).bind fun r hr => ?_
    intro q
    dsimp only
    rw [registrar_mensajes]
    exact hr q

end Nucleo

section Vista

/-- The arrays of the pages of a carpincho, one after the other. -/
def Plana.deCarpincho (tamanioPagina : ℕ) (g : Plana) (pid : ℤ) : Mem :=
  fun a => g (pid, (a / tamanioPagina : ℕ) + 1) (a % tamanioPagina)

/-- What a carpincho sees of a state. -/
def vistaDe (E : Entorno) (g : Plana) (s : Estado) (pid : ℤ) : Solitario where
  consultas := consultasDe pid s.mensajes
  heap := (getCarpincho pid s).map fun c =>
    ⟨c.paginas.length, c.allocs, g.deCarpincho E.config.tamanioPagina pid⟩

def Refleja (E : Entorno) (s : Estado) (f : ℤ → Solitario) : Prop :=
  ∃ n g, Representa E s n ∧ n.Contenida E.parametros g ∧ f = vistaDe E g s

/-- What stops the module: a counter that overflows, or no page to evict. -/
def Detenida (e : Falla) : Prop := e = .candidatosVacios ∨ e = .desbordamiento

variable {E : Entorno} {s s' : Estado} {f : ℤ → Solitario} {g g' : Plana} {pid : ℤ}
  {c : Carpincho} {h : HeapLlano}

theorem deCarpincho_pagina {P i o : ℕ} (ho : o < P) (g : Plana) (pid : ℤ) :
    g.deCarpincho P pid (i * P + o) = g (pid, (i : ℤ) + 1) o := by
  have hP : 0 < P := Nat.zero_lt_of_lt ho
  rw [Plana.deCarpincho, Nat.mul_comm, Nat.mul_add_div hP, Nat.mul_add_mod, Nat.div_eq_of_lt ho,
    Nat.mod_eq_of_lt ho, Nat.add_zero]

theorem deCarpincho_escrita {P i offset : ℕ} {buffer : List UInt8} (hP : 0 < P)
    (hcabe : offset + buffer.length ≤ P) (g : Plana) (pid : ℤ) :
    Plana.deCarpincho P (Function.update g (pid, (i : ℤ) + 1)
        (copy (g (pid, (i : ℤ) + 1)) offset buffer)) pid =
      copy (g.deCarpincho P pid) (i * P + offset) buffer := by
  funext a
  obtain ⟨k, o, ho, rfl⟩ : ∃ k o, o < P ∧ a = k * P + o :=
    ⟨a / P, a % P, Nat.mod_lt a hP, (Nat.div_add_mod' a P).symm⟩
  rw [deCarpincho_pagina ho]
  rcases eq_or_ne k i with rfl | hk
  · rw [Function.update_self]
    exact (copy_shift offset buffer (deCarpincho_pagina ho g pid)).symm
  · have hnombre : (pid, (k : ℤ) + 1) ≠ (pid, (i : ℤ) + 1) := by
      intro heq
      have := congrArg Prod.snd heq
      dsimp only at this
      omega
    rw [Function.update_of_ne hnombre, copy_block_other _ _ _ hk hcabe ho, deCarpincho_pagina ho]

theorem deCarpincho_ajena {P : ℕ} {q : ℤ} (hq : q ≠ pid) (numero : ℤ) (mem : Mem) (g : Plana) :
    Plana.deCarpincho P (Function.update g (pid, numero) mem) q = g.deCarpincho P q := by
  funext a
  rw [Plana.deCarpincho, Function.update_of_ne fun heq => hq (congrArg Prod.fst heq)]
  rfl

theorem exists_of_vistaDe (hh : (vistaDe E g s pid).heap = some h) :
    ∃ c, getCarpincho pid s = some c ∧ c.paginas.length = h.paginas ∧ c.allocs = h.allocs ∧
      h.bytes = g.deCarpincho E.config.tamanioPagina pid := by
  obtain ⟨c, hc, rfl⟩ := Option.map_eq_some_iff.1 hh
  exact ⟨c, hc, rfl, rfl, rfl⟩

theorem vistaDe_congr (hmismo : MismoHeap pid s s')
    (hconsultas : consultasDe pid s'.mensajes = consultasDe pid s.mensajes)
    (hbytes : g'.deCarpincho E.config.tamanioPagina pid =
      g.deCarpincho E.config.tamanioPagina pid) :
    vistaDe E g' s' pid = vistaDe E g s pid := by
  have hheap : ∀ s : Estado, ∀ mem : Mem,
      (getCarpincho pid s).map (fun c => HeapLlano.mk c.paginas.length c.allocs mem) =
        ((getCarpincho pid s).map Carpincho.heap).map fun x => ⟨x.2.1.length, x.2.2, mem⟩ := by
    intro s mem
    rw [Option.map_map]
    rfl
  simp only [vistaDe, hconsultas, hbytes, hheap]
  rw [hmismo]

theorem vistaDe_update {t : Solitario} (hpid : vistaDe E g' s' pid = t)
    (hotros : ∀ q, q ≠ pid → vistaDe E g' s' q = vistaDe E g s q) :
    Function.update (vistaDe E g s) pid t = vistaDe E g' s' := by
  funext q
  rcases eq_or_ne q pid with rfl | hq
  · rw [Function.update_self, hpid]
  · rw [Function.update_of_ne hq, hotros q hq]

end Vista

section Tablas

variable {E : Entorno} {s : Estado} {f : ℤ → Solitario} {n : Nucleo} {g : Plana} {pid : ℤ}
  {h : HeapLlano}

open Solitario

theorem Refleja.setAllocs (hr : Refleja E s f) (hh : (f pid).heap = some h)
    (allocs : List Alloc) :
    Refleja E (Memoria.setAllocs pid allocs s)
      (Function.update f pid (conHeap (conAllocs allocs h) (f pid))) := by
  obtain ⟨n, g, hrep, hcont, rfl⟩ := hr
  obtain ⟨c, hc, hpaginas, -, hbytes⟩ := exists_of_vistaDe hh
  refine ⟨n, g, hrep.setAllocs pid allocs, hcont, vistaDe_update ?_ fun q hq => ?_⟩
  · rw [vistaDe, getCarpincho_setAllocs hc, conHeap, conAllocs, ← hpaginas, hbytes]
    rfl
  · exact vistaDe_congr (.setAllocs hq allocs) rfl rfl

theorem Nucleo.Contenida.preguntada {π : Parametros} (h : n.Contenida π g) (pid cantPag : ℤ) :
    Nucleo.Contenida π { n with mensajes := n.mensajes ++ [.consulta pid cantPag] } g := by
  refine ⟨h.residente, h.libre, fun p hp hfuera => ?_, h.nueva⟩
  have hultima := h.ausente p hp hfuera
  unfold Nucleo.Enviada ultimaEscritura at hultima ⊢
  rw [List.foldl_append]
  exact hultima

theorem Refleja.preguntado (hr : Refleja E s f) (pid cantPag : ℤ) :
    Refleja E (Memoria.preguntado pid cantPag s)
      (Function.update f pid { f pid with consultas := (f pid).consultas ++ [cantPag] }) := by
  obtain ⟨n, g, hrep, hcont, rfl⟩ := hr
  refine ⟨_, g, hrep.preguntado pid cantPag, hcont.preguntada pid cantPag,
    vistaDe_update ?_ fun q hq => ?_⟩
  · simp only [vistaDe, Memoria.preguntado, consultasDe_append_consulta]
    rfl
  · exact vistaDe_congr rfl (consultasDe_append_ajena hq cantPag) rfl

theorem deCarpincho_nueva (hrep : Representa E s n) (hcont : n.Contenida E.parametros g)
    (hno : getCarpincho pid s = none) (P : ℕ) : g.deCarpincho P pid = fun _ => guion := by
  funext a
  refine hcont.nueva _ (fun p hp hnombre => ?_) _
  obtain ⟨c, hc, -⟩ := hrep.bien.tablas.existe_proceso hp
  rw [hnombre, ← hrep.sim.getCarpincho_proceso, hno] at hc
  cases hc

theorem Refleja.createCarpincho (hr : Refleja E s f) (hpid : pid ≠ 0)
    (hh : (f pid).heap = none) :
    Refleja E (Memoria.createCarpincho pid s)
      (Function.update f pid (conHeap vacio (f pid))) := by
  obtain ⟨n, g, hrep, hcont, rfl⟩ := hr
  have hno : getCarpincho pid s = none := Option.map_eq_none_iff.1 hh
  obtain ⟨hbien, horden⟩ := Nucleo.crearProceso_spec hrep.bien hrep.orden hpid
  obtain ⟨c, hc, hpaginas, hallocs⟩ := getCarpincho_createCarpincho hno
  have hmensajes : (Memoria.createCarpincho pid s).mensajes = s.mensajes := by
    unfold Memoria.createCarpincho
    split <;> rfl
  refine ⟨_, g, ⟨createCarpincho_sim hrep.sim pid, hbien, horden⟩, hcont.crearProceso pid,
    vistaDe_update ?_ fun q hq => ?_⟩
  · rw [vistaDe, hc, hmensajes, Option.map_some, hpaginas, hallocs,
      deCarpincho_nueva hrep hcont hno]
    rfl
  · exact vistaDe_congr (.createCarpincho hq) (by rw [hmensajes]) rfl

end Tablas

section Paginas

variable {E : Entorno} {s : Estado} {f : ℤ → Solitario} {n : Nucleo} {g : Plana} {pid : ℤ}
  {p i : ℕ} {h : HeapLlano}

open Solitario

theorem no_rechazo_of_vacios (e : Falla) (he : e = .candidatosVacios) : ¬ EsRechazo e := by
  rintro rfl
  cases he

/-- A carpincho that exists gets its page, empty, unless there is none to evict. -/
theorem Nucleo.crear_existente (hrep : Representa E s n) (hcont : n.Contenida E.parametros g)
    (hlru : E.config.algoritmoReemplazoMmu = .lru) (hpid : (n.proceso pid).isSome) :
    Spec (n.crear E.parametros pid)
      (fun r => (r.2.Bien E.parametros ∧ r.2.OrdenBien E.parametros) ∧
        r.2.Contenida E.parametros g ∧ SinConsultas n r.2) (· = .candidatosVacios) := by
  have hpara : Spec (n.crear E.parametros pid) (fun _ => True) (· = .candidatosVacios) := by
    obtain ⟨c, hc⟩ := Option.isSome_iff_exists.1 hpid
    unfold crear
    rw [hc]
    exact (alojarNueva_spec (nombrar_bien hrep.bien) pid n.proximoPtr).bind fun _ _ => trivial
  have hcrear := ((crear_spec hrep.bien hrep.orden pid).and
    (crear_plana hcont hrep.bien hlru pid)).and (crear_consultas hlru hrep.bien pid)
  exact (hcrear.and hpara).mono (fun r hr => ⟨hr.1.1.1, hr.1.1.2, hr.1.2⟩) fun e he => he.2

theorem Refleja.createPagina (hlru : E.config.algoritmoReemplazoMmu = .lru) (hr : Refleja E s f)
    (hh : (f pid).heap = some h) :
    Spec (createPagina E pid s)
      (fun r => Refleja E r.2 (Function.update f pid
        (conHeap { h with paginas := h.paginas + 1 } (f pid)))) Detenida := by
  obtain ⟨n, g, hrep, hcont, rfl⟩ := hr
  obtain ⟨c, hc, hpaginas, hallocs, hbytes⟩ := exists_of_vistaDe hh
  have hproceso : (n.proceso pid).isSome := by
    rw [← hrep.sim.getCarpincho_proceso, hc]
    rfl
  have hcrear := ((createPagina_sim hrep.sim hrep.bien hrep.orden hproceso).spec
    (Nucleo.crear_existente hrep hcont hlru hproceso) no_rechazo_of_vacios).self
  refine hcrear.mono ?_ fun _ he => he
  rintro ⟨p, s'⟩ ⟨hs, ⟨p', n'⟩, ⟨-, hsim⟩, ⟨hbien, horden⟩, hcont', hconsultas⟩
  have hmensajes : ∀ q, consultasDe q s'.mensajes = consultasDe q s.mensajes := by
    intro q
    rw [hsim.mensajes, hrep.sim.mensajes]
    exact hconsultas q
  obtain ⟨d, hd, hdpaginas, hdallocs⟩ := getCarpincho_createPagina hc hs
  refine ⟨n', g, ⟨hsim, hbien, horden⟩, hcont', vistaDe_update ?_ fun q hq => ?_⟩
  · rw [vistaDe, hd, hmensajes, Option.map_some, hdpaginas, hdallocs, hallocs,
      List.length_append, hpaginas, hbytes]
    rfl
  · exact vistaDe_congr (.createPagina hq hs) (hmensajes q) rfl

structure EsPagina (n : Nucleo) (pid : ℤ) (i p : ℕ) : Prop where
  existe : n.existe p
  nombre : n.nombre p = (pid, (i : ℤ) + 1)

theorem Refleja.escribirEnPagina (hlru : E.config.algoritmoReemplazoMmu = .lru)
    (hswamp : E.SwampFiel) (hrep : Representa E s n) (hcont : n.Contenida E.parametros g)
    (hh : (vistaDe E g s pid).heap = some h) (hp : EsPagina n pid i p) {offset : ℕ}
    {buffer : List UInt8} (hcabe : offset + buffer.length ≤ E.config.tamanioPagina) :
    Spec (escribirEnPagina E p buffer offset s)
      (fun r => Refleja E r.2 (Function.update (vistaDe E g s) pid
        (conHeap { h with bytes := copy h.bytes (i * E.config.tamanioPagina + offset) buffer }
          (vistaDe E g s pid)))) Detenida := by
  obtain ⟨c, hc, hpaginas, hallocs, hbytes⟩ := exists_of_vistaDe hh
  have hnucleo := ((Nucleo.escribir_spec hrep.bien hrep.orden hp.existe buffer offset).and
    (Nucleo.escribir_plana hcont hrep.bien hrep.orden hlru hswamp hp.existe hcabe)).and
    (Nucleo.escribir_consultas hlru hrep.bien p buffer offset)
  have hescribir := ((escribirEnPagina_sim hrep.sim hrep.bien hrep.orden hp.existe buffer
    offset).spec hnucleo fun e he => no_rechazo_of_vacios e he.1.2).self
  refine hescribir.mono ?_ fun e he => he.imp (fun he => he.1.2) id
  rintro ⟨r, s'⟩ ⟨hs, ⟨r', n'⟩, ⟨-, hsim⟩, ⟨⟨hbien, horden⟩, -, hcont'⟩, hconsultas⟩
  have hmensajes : ∀ q, consultasDe q s'.mensajes = consultasDe q s.mensajes := by
    intro q
    rw [hsim.mensajes, hrep.sim.mensajes]
    exact hconsultas q
  have hheaps := heaps_escribirEnPagina hs
  rw [hp.nombre] at hcont'
  refine ⟨n', _, ⟨hsim, hbien, horden⟩, hcont', vistaDe_update ?_ fun q hq => ?_⟩
  · obtain ⟨d, hd, hheap⟩ := getCarpincho_some_of_heaps hheaps hc
    have hdpaginas : d.paginas = c.paginas := congrArg (fun x => x.2.1) hheap
    have hdallocs : d.allocs = c.allocs := congrArg (fun x => x.2.2) hheap
    rw [vistaDe, hd, hmensajes, Option.map_some, hdpaginas, hdallocs, hallocs, hpaginas, hbytes,
      deCarpincho_escrita E.config.pagina_pos hcabe]
    rfl
  · exact vistaDe_congr (.of_heaps hheaps q) (hmensajes q) (deCarpincho_ajena hq _ _ g)

theorem Refleja.leerEnPagina (hlru : E.config.algoritmoReemplazoMmu = .lru)
    (hswamp : E.SwampFiel) (hrep : Representa E s n) (hcont : n.Contenida E.parametros g)
    (hh : (vistaDe E g s pid).heap = some h) (hp : EsPagina n pid i p) {offset tamanio : ℕ}
    (hcabe : offset + tamanio ≤ E.config.tamanioPagina) :
    Spec (leerEnPagina E p tamanio offset s)
      (fun r => r.1 = some (slice h.bytes (i * E.config.tamanioPagina + offset) tamanio) ∧
        Refleja E r.2 (vistaDe E g s)) Detenida := by
  obtain ⟨c, hc, hpaginas, hallocs, hbytes⟩ := exists_of_vistaDe hh
  have hnucleo := ((Nucleo.leer_spec hrep.bien hrep.orden hp.existe tamanio offset).and
    (Nucleo.leer_plana hcont hrep.bien hlru hswamp hp.existe hcabe)).and
    (Nucleo.leer_consultas hlru hrep.bien p tamanio offset)
  have hleer := ((leerEnPagina_sim hrep.sim hrep.bien hrep.orden hp.existe tamanio offset).spec
    hnucleo fun e he => no_rechazo_of_vacios e he.1.2).self
  refine hleer.mono ?_ fun e he => he.imp (fun he => he.1.2) id
  rintro ⟨r, s'⟩ ⟨hs, ⟨r', n'⟩, ⟨rfl, hsim⟩, ⟨⟨hbien, horden⟩, hleido, hcont'⟩, hconsultas⟩
  have hheaps := heaps_leerEnPagina hs
  constructor
  · dsimp only at hleido ⊢
    rw [hleido, hp.nombre, hbytes]
    refine congrArg some (slice_congr fun o ho => ?_)
    rw [Nat.add_assoc, deCarpincho_pagina (by omega)]
  · refine ⟨n', g, ⟨hsim, hbien, horden⟩, hcont', funext fun q => ?_⟩
    refine (vistaDe_congr (.of_heaps hheaps q) ?_ rfl).symm
    rw [hsim.mensajes, hrep.sim.mensajes]
    exact hconsultas q

end Paginas

section Rangos

variable {E : Entorno} {s : Estado} {f : ℤ → Solitario} {pid : ℤ} {h : HeapLlano} {pos : ℕ}
  {pagina : ℕ → Estado → Except Falla ℕ}

open Solitario

/-- The function gives the page at a position of the carpincho. -/
def DaPagina (E : Entorno) (pid : ℤ) (pagina : ℕ → Estado → Except Falla ℕ) : Prop :=
  ∀ s n c i, Representa E s n → getCarpincho pid s = some c → c.paginas.length < 2 ^ 31 →
    i < c.paginas.length → ∃ p, pagina i s = .ok p ∧ EsPagina n pid i p

theorem esPagina_getElem {n : Nucleo} {c : Carpincho} {i : ℕ} (hrep : Representa E s n)
    (hc : getCarpincho pid s = some c) (hi : i < c.paginas.length) :
    EsPagina n pid i c.paginas[i] := by
  have hproceso := hrep.sim.getCarpincho_proceso pid
  rw [hc, Option.map_some] at hproceso
  obtain ⟨hmem, hpid⟩ := Nucleo.proceso_some hproceso.symm
  refine ⟨⟨c.proceso, hmem, List.getElem_mem hi⟩, ?_⟩
  rw [← hpid]
  exact hrep.bien.tablas.nombre c.proceso hmem i hi

theorem paginaPorIndice_daPagina (E : Entorno) (pid : ℤ) :
    DaPagina E pid (paginaPorIndice pid) := by
  intro s n c i hrep hc hlen hi
  refine ⟨c.paginas[i], ?_, esPagina_getElem hrep hc hi⟩
  have hindice : aInt (i : ℤ) = i := aInt_of_range (by omega) (by omega)
  have hget : listGet c.paginas (i : ℤ) = some c.paginas[i] := by
    rw [listGet, if_pos (Int.natCast_nonneg _), Int.toNat_natCast, List.getElem?_eq_getElem hi]
  unfold paginaPorIndice carpinchoDe
  rw [hc]
  dsimp only
  rw [ok_bind, hindice, hget]

theorem paginaPorNumero_daPagina (E : Entorno) (pid : ℤ) :
    DaPagina E pid (paginaPorNumero pid) := by
  intro s n c i hrep hc hlen hi
  obtain ⟨rfl, -⟩ := getCarpincho_pid hc
  have hpagina : ∀ j (hj : j < c.paginas.length),
      (s.descriptor c.paginas[j]).carpinchoPid = c.pid ∧
        (s.descriptor c.paginas[j]).pagina = (j : ℤ) + 1 := by
    intro j hj
    have hes := esPagina_getElem hrep hc hj
    have hnombrada := hrep.sim.nombradas _ hes.existe
    rw [hnombrada.pid, hnombrada.pagina, hes.nombre]
    exact ⟨rfl, rfl⟩
  have hnumero : aInt ((i : ℤ) + 1) = i + 1 := aInt_of_range (by omega) (by omega)
  have hlegibles : paginasLegibles c.paginas s = .ok () := by
    refine hrep.sim.paginasLegibles fun q hq => ?_
    obtain ⟨j, hj, rfl⟩ := List.getElem_of_mem hq
    exact (esPagina_getElem hrep hc hj).existe
  have hfind : c.paginas.find? (fun p => decide ((s.descriptor p).carpinchoPid = c.pid ∧
      (s.descriptor p).pagina = aInt ((i : ℤ) + 1))) = some c.paginas[i] := by
    rw [hnumero]
    refine List.find?_eq_some_iff_getElem.2 ⟨decide_eq_true (hpagina i hi), i, hi, rfl, ?_⟩
    intro j hj
    rw [Bool.not_eq_true', decide_eq_false_iff_not]
    rintro ⟨-, hjpagina⟩
    rw [(hpagina j (hj.trans hi)).2] at hjpagina
    omega
  refine ⟨c.paginas[i], ?_, esPagina_getElem hrep hc hi⟩
  unfold paginaPorNumero carpinchoDe
  rw [hc]
  simp only [ok_bind, getPage, hlegibles, hfind]

/-- The accesses to a range of two pages at most: one piece, or two that meet at the end of the
first page. -/
theorem acciones_dos_paginas {cfg : Config} {size : ℕ} (hsize : 0 < size)
    (hle : pos + size ≤ 2 ^ 32)
    (hdos : (pos + (size - 1)) / cfg.tamanioPagina ≤ pos / cfg.tamanioPagina + 1) :
    (pos % cfg.tamanioPagina + size ≤ cfg.tamanioPagina ∧
      acciones cfg pos size =
        [⟨pos / cfg.tamanioPagina, List.range' (pos % cfg.tamanioPagina) size⟩]) ∨
    ∃ n, 0 < n ∧ n < size ∧ pos % cfg.tamanioPagina + n = cfg.tamanioPagina ∧
      size - n ≤ cfg.tamanioPagina ∧ pos + n = (pos / cfg.tamanioPagina + 1) * cfg.tamanioPagina ∧
      acciones cfg pos size =
        [⟨pos / cfg.tamanioPagina, List.range' (pos % cfg.tamanioPagina) n⟩,
          ⟨pos / cfg.tamanioPagina + 1, List.range' 0 (size - n)⟩] := by
  have hP := cfg.pagina_pos
  have hmod := Nat.mod_lt pos hP
  have hnada : ∀ pos, acciones cfg pos 0 = [] := fun _ => rfl
  rw [acciones_cons hsize hle]
  rcases le_or_gt (pos % cfg.tamanioPagina + size) cfg.tamanioPagina with hcabe | hpasa
  · have htrozo : primerTrozo cfg.tamanioPagina pos size = size := by
      unfold primerTrozo
      omega
    left
    rw [htrozo, Nat.sub_self, hnada]
    exact ⟨hcabe, rfl⟩
  · have htrozo : primerTrozo cfg.tamanioPagina pos size =
        cfg.tamanioPagina - pos % cfg.tamanioPagina := by
      unfold primerTrozo
      omega
    have hcruza : primerTrozo cfg.tamanioPagina pos size < size := by omega
    obtain ⟨-, hsigue⟩ := siguiente_pagina hP hcruza
    rw [htrozo] at hsigue ⊢
    have hresto : pos + (size - 1) < (pos / cfg.tamanioPagina + 2) * cfg.tamanioPagina := by
      rw [← Nat.div_lt_iff_lt_mul hP]
      omega
    generalize hn : cfg.tamanioPagina - pos % cfg.tamanioPagina = n at hsigue ⊢
    rw [Nat.mul_comm] at hsigue
    have hdoble : (pos / cfg.tamanioPagina + 2) * cfg.tamanioPagina =
        (pos / cfg.tamanioPagina + 1) * cfg.tamanioPagina + cfg.tamanioPagina := by ring
    have hdiv : (pos + n) / cfg.tamanioPagina = pos / cfg.tamanioPagina + 1 := by
      rw [hsigue, Nat.mul_div_cancel _ hP]
    have hmod' : (pos + n) % cfg.tamanioPagina = 0 := by rw [hsigue, Nat.mul_mod_left]
    have hsegundo : primerTrozo cfg.tamanioPagina (pos + n) (size - n) = size - n := by
      unfold primerTrozo
      rw [hmod']
      omega
    right
    refine ⟨n, by omega, by omega, by omega, by omega, hsigue, ?_⟩
    rw [acciones_cons (by omega) (by omega), hsegundo, Nat.sub_self, hnada, hdiv, hmod']

def conBytes (bytes : Mem) (h : HeapLlano) : HeapLlano := { h with bytes := bytes }

theorem headD_range' (offset : ℕ) {n : ℕ} (hn : 0 < n) :
    (List.range' offset n).headD 0 = offset := by
  obtain ⟨m, rfl⟩ := Nat.exists_eq_succ_of_ne_zero hn.ne'
  rfl

theorem update_conHeap (f : ℤ → Solitario) (pid : ℤ) (h h' : HeapLlano) :
    Function.update (Function.update f pid (conHeap h (f pid))) pid
        (conHeap h' (Function.update f pid (conHeap h (f pid)) pid)) =
      Function.update f pid (conHeap h' (f pid)) := by
  rw [Function.update_idem, Function.update_self]
  rfl

theorem alcanza_pagina {cfg : Config} {size i : ℕ} (halcanza : alcanza cfg h pos size = true)
    (hi : i * cfg.tamanioPagina < pos + size) : i < h.paginas ∧ h.paginas < 2 ^ 31 := by
  simp only [alcanza, Bool.and_eq_true, decide_eq_true_eq] at halcanza
  obtain ⟨⟨hmax, hcabe⟩, -⟩ := halcanza
  constructor
  · exact lt_of_mul_lt_mul_right (hi.trans_le hcabe) (Nat.zero_le _)
  · exact (Nat.le_mul_of_pos_right _ cfg.pagina_pos).trans_lt hmax

variable (hlru : E.config.algoritmoReemplazoMmu = .lru) (hswamp : E.SwampFiel)
  (hpag : DaPagina E pid pagina)
include hlru hswamp hpag

theorem Refleja.escribirAcciones_cons {i offset n prev : ℕ} {valor : List UInt8}
    {resto : List PaginaAccion} {post : Estado → Prop} (hr : Refleja E s f)
    (hh : (f pid).heap = some h) (hi : i < h.paginas ∧ h.paginas < 2 ^ 31) (hn : 0 < n)
    (hcabe : offset + n ≤ E.config.tamanioPagina)
    (hresto : ∀ s', Refleja E s' (Function.update f pid (conHeap (conBytes
        (copy h.bytes (i * E.config.tamanioPagina + offset) ((valor.drop prev).take n)) h)
        (f pid))) → Spec (escribirAcciones E pagina valor resto n s') post Detenida) :
    Spec (escribirAcciones E pagina valor (⟨i, List.range' offset n⟩ :: resto) prev s) post
      Detenida := by
  obtain ⟨nucleo, g, hrep, hcont, rfl⟩ := hr
  obtain ⟨c, hc, hpaginas, -, -⟩ := exists_of_vistaDe hh
  obtain ⟨p, hp, hes⟩ := hpag s nucleo c i hrep hc (by omega) (by omega)
  have hlen : ((valor.drop prev).take n).length ≤ n := List.length_take_le _ _
  rw [escribirAcciones, hp, ok_bind, List.length_range', headD_range' offset hn]
  refine (Refleja.escribirEnPagina hlru hswamp hrep hcont hh hes (by omega)).bind fun r hr => ?_
  exact hresto r.2 hr

theorem Refleja.leerAcciones_cons {i offset n prev : ℕ} {buffer : List UInt8}
    {resto : List PaginaAccion} {post : List UInt8 × Estado → Prop} (hr : Refleja E s f)
    (hh : (f pid).heap = some h) (hi : i < h.paginas ∧ h.paginas < 2 ^ 31) (hn : 0 < n)
    (hcabe : offset + n ≤ E.config.tamanioPagina)
    (hresto : ∀ s', Refleja E s' f → Spec (leerAcciones E pagina resto n
      (copiarEn buffer prev (slice h.bytes (i * E.config.tamanioPagina + offset) n)) s') post
        Detenida) :
    Spec (leerAcciones E pagina (⟨i, List.range' offset n⟩ :: resto) prev buffer s) post
      Detenida := by
  obtain ⟨nucleo, g, hrep, hcont, rfl⟩ := hr
  obtain ⟨c, hc, hpaginas, -, -⟩ := exists_of_vistaDe hh
  obtain ⟨p, hp, hes⟩ := hpag s nucleo c i hrep hc (by omega) (by omega)
  rw [leerAcciones, hp, ok_bind, List.length_range', headD_range' offset hn]
  refine (Refleja.leerEnPagina hlru hswamp hrep hcont hh hes hcabe).bind fun r hr => ?_
  obtain ⟨contenido, s'⟩ := r
  obtain ⟨rfl, hr⟩ := hr
  exact hresto s' hr

/-- A value written to a range is written to the bytes of the carpincho. -/
theorem Refleja.escribirAcciones {valor : List UInt8} (hr : Refleja E s f)
    (hh : (f pid).heap = some h) (halcanza : alcanza E.config h pos valor.length = true) :
    Spec (escribirAcciones E pagina valor (acciones E.config pos valor.length) 0 s)
      (fun s' => Refleja E s' (Function.update f pid
        (conHeap (conBytes (copy h.bytes pos valor) h) (f pid)))) Detenida := by
  have hP := E.config.pagina_pos
  have hdiv := Nat.div_add_mod' pos E.config.tamanioPagina
  have hpagina := @alcanza_pagina h pos E.config valor.length
  have hlimites := halcanza
  simp only [alcanza, Bool.and_eq_true, decide_eq_true_eq] at hlimites
  obtain ⟨⟨hmax, hdentro⟩, hdos⟩ := hlimites
  rcases Nat.eq_zero_or_pos valor.length with hnada | hsize
  · obtain rfl := List.eq_nil_of_length_eq_zero hnada
    have hmisma : conHeap (conBytes (copy h.bytes pos []) h) (f pid) = f pid := by
      have hbytes : copy h.bytes pos [] = h.bytes := by
        funext a
        exact copy_outside _ _ _ (by rw [List.length_nil]; omega)
      rw [conBytes, hbytes, conHeap, ← hh]
    rw [hmisma, Function.update_eq_self]
    exact hr
  · rcases acciones_dos_paginas hsize (by omega) hdos with ⟨hcabe, hacciones⟩ |
      ⟨n, hn, hlt, hprimera, hsegunda, hsigue, hacciones⟩
    · rw [hacciones]
      refine Refleja.escribirAcciones_cons hlru hswamp hpag hr hh (hpagina halcanza (by omega))
        hsize hcabe fun s' hr' => ?_
      rw [hdiv, List.drop_zero, List.take_length] at hr'
      exact hr'
    · rw [hacciones]
      refine Refleja.escribirAcciones_cons hlru hswamp hpag hr hh (hpagina halcanza (by omega))
        hn hprimera.le fun s' hr' => ?_
      have hh' := congrArg Solitario.heap
        (Function.update_self pid (conHeap (conBytes (copy h.bytes
          (pos / E.config.tamanioPagina * E.config.tamanioPagina + pos % E.config.tamanioPagina)
          ((valor.drop 0).take n)) h) (f pid)) f)
      refine Refleja.escribirAcciones_cons hlru hswamp hpag hr' hh'
        (hpagina halcanza (by omega)) (by omega) (by omega) fun s'' hr'' => ?_
      have hlen : (valor.take n).length = n := by
        rw [List.length_take]
        omega
      have hjuntos : copy (copy h.bytes pos (valor.take n)) (pos + n) (valor.drop n) =
          copy h.bytes pos valor := by
        have happend := copy_append h.bytes pos (valor.take n) (valor.drop n)
        rw [List.take_append_drop, hlen] at happend
        exact happend.symm
      have htodo : (valor.drop n).take (valor.length - n) = valor.drop n := by
        rw [← List.length_drop, List.take_length]
      rw [update_conHeap, hdiv, List.drop_zero, htodo, Nat.add_zero, ← hsigue] at hr''
      rw [← hjuntos]
      exact hr''

/-- A range that is read gives the bytes of the carpincho. -/
theorem Refleja.leerAcciones {buffer : List UInt8} (hr : Refleja E s f)
    (hh : (f pid).heap = some h) (halcanza : alcanza E.config h pos buffer.length = true) :
    Spec (leerAcciones E pagina (acciones E.config pos buffer.length) 0 buffer s)
      (fun r => r.1 = slice h.bytes pos buffer.length ∧ Refleja E r.2 f) Detenida := by
  have hP := E.config.pagina_pos
  have hdiv := Nat.div_add_mod' pos E.config.tamanioPagina
  have hpagina := @alcanza_pagina h pos E.config buffer.length
  have hlimites := halcanza
  simp only [alcanza, Bool.and_eq_true, decide_eq_true_eq] at hlimites
  obtain ⟨⟨hmax, hdentro⟩, hdos⟩ := hlimites
  have hcopia : ∀ n, n ≤ buffer.length → copiarEn buffer 0 (slice h.bytes pos n) =
      slice h.bytes pos n ++ buffer.drop n := by
    intro n _
    rw [copiarEn, List.take_zero, List.nil_append, length_slice, Nat.zero_add]
  rcases Nat.eq_zero_or_pos buffer.length with hnada | hsize
  · obtain rfl := List.eq_nil_of_length_eq_zero hnada
    exact ⟨rfl, hr⟩
  · rcases acciones_dos_paginas hsize (by omega) hdos with ⟨hcabe, hacciones⟩ |
      ⟨n, hn, hlt, hprimera, hsegunda, hsigue, hacciones⟩
    · rw [hacciones]
      refine Refleja.leerAcciones_cons hlru hswamp hpag hr hh (hpagina halcanza (by omega))
        hsize hcabe fun s' hr' => ?_
      rw [hdiv, hcopia _ le_rfl, List.drop_length, List.append_nil]
      exact ⟨rfl, hr'⟩
    · rw [hacciones]
      refine Refleja.leerAcciones_cons hlru hswamp hpag hr hh (hpagina halcanza (by omega))
        hn hprimera.le fun s' hr' => ?_
      refine Refleja.leerAcciones_cons hlru hswamp hpag hr' hh (hpagina halcanza (by omega))
        (by omega) (by omega) fun s'' hr'' => ?_
      refine ⟨?_, hr''⟩
      rw [hdiv, hcopia n hlt.le, Nat.add_zero, ← hsigue, copiarEn,
        List.take_left' (length_slice _ _ _), length_slice, List.drop_eq_nil_of_le, List.append_nil,
        ← slice_add, Nat.add_sub_cancel' hlt.le]
      rw [List.length_append, length_slice, List.length_drop]

end Rangos

end Carpinchos.Memoria
