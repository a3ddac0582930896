import Carpinchos.Kernel.Tablero

/-!
# The life of a carpincho

What concerns one carpincho: its control block, how many times each queue holds it, the CPU
that runs it, and where it stands with its own requests. A CPU that has blocked it goes on for
a while, and as long as the planner does not choose it in between, no two CPUs have it. While
it waits for an IO it is in BLOCKED or READY, or it runs and its CPU is about to answer it.
-/

namespace Carpinchos.Kernel

/-- Where a carpincho stands: `libre` when its last request has been answered, and `cerrado`
when that was its end. -/
inductive Cliente
  | libre
  | espera (pedido : Pedido)
  | cerrado
  deriving DecidableEq, Repr

def Etapa.sirviendo (e : Etapa) : Bool := e.atendiendo || e.bloqueando

@[ext] structure Vida where
  ficha : Option Ficha
  nuevos : ℕ
  listos : ℕ
  bloqueados : ℕ
  salida : ℕ
  enMano : Bool
  /-- where each CPU that runs the carpincho stands -/
  etapas : ℕ → Option Etapa
  nacida : Bool
  cliente : Cliente

namespace Vida

variable (v : Vida)

/-- Nothing has happened to the carpincho yet. -/
structure Virgen : Prop where
  cliente : v.cliente = .libre
  etapas : ∀ c, v.etapas c = none
  enMano : v.enMano = false
  listos : v.listos = 0
  bloqueados : v.bloqueados = 0
  salida : v.salida = 0

/-- Where a carpincho whose IO has not been answered can be. -/
def Lugar (f : Ficha) : Prop :=
  0 < v.bloqueados ∨ 0 < v.listos ∨
    f.status = .exec ∧
      (v.enMano = true ∨ ∃ c, v.etapas c = some .asignada ∨ v.etapas c = some .ciclo ∨
        v.etapas c = some .respondiendoIo)

def EnServicio : Pedido → Prop
  | .semaforo _ => ∃ c e, v.etapas c = some e ∧ e.sirviendo ∧ e ≠ .bloqueandoPorIo
  | .io _ => (∃ c, v.etapas c = some .bloqueandoPorIo) ∨
      ∃ f, v.ficha = some f ∧ f.ioFinished = true ∧ v.Lugar f
  | _ => False

structure Ordenada (hrrn : Prop) : Prop where
  virgen : 0 < v.nuevos ∨ v.nacida = false → v.Virgen
  nuevo : 0 < v.nuevos →
    v.nuevos = 1 ∧ v.nacida = true ∧ ∃ f, v.ficha = some f ∧ f.ioFinished = false
  sola : ∀ c c' e e', v.etapas c = some e → v.etapas c' = some e' → c = c'
  mano : v.enMano = true → ∀ c, v.etapas c = none
  semaforo : ∀ c e, v.etapas c = some e → e.sirviendo → e ≠ .bloqueandoPorIo →
    ∃ sema, v.cliente = .espera (.semaforo sema)
  io : ∀ c, v.etapas c = some .bloqueandoPorIo → (∃ nombre, v.cliente = .espera (.io nombre)) ∧
    v.listos = 0 ∧ v.bloqueados = 0 ∧
      ∃ f, v.ficha = some f ∧ f.status ≠ .exec ∧ f.ioFinished = false
  responde : ∀ c, v.etapas c = some .respondiendoIo → v.listos = 0 ∧ v.bloqueados = 0 ∧
    (∃ nombre, v.cliente = .espera (.io nombre)) ∧ ∃ f, v.ficha = some f ∧ f.status = .exec ∧
      f.ioFinished = true
  limpia : ∀ c, v.etapas c = some .limpiandoIo →
    v.listos = 0 ∧ v.bloqueados = 0 ∧ v.cliente = .libre
  marcada : ∀ f, v.ficha = some f → f.ioFinished = true →
    (∃ c, v.etapas c = some .limpiandoIo) ∨
      (∃ nombre, v.cliente = .espera (.io nombre)) ∧ (∀ c, v.etapas c ≠ some .bloqueandoPorIo) ∧
        v.Lugar f
  bloqueada : 0 < v.bloqueados → v.bloqueados = 1 ∧ v.listos = 0 ∧
    ∃ f, v.ficha = some f ∧ f.ioFinished = true ∧ f.status ≠ .exec
  lista : 0 < v.listos → v.listos = 1 ∧ ∃ f, v.ficha = some f ∧
    (f.ioFinished = true ∧ f.status ≠ .exec ∨
      f.ioFinished = false ∧ v.cliente = .libre ∧ v.enMano = false ∧ ∀ c, v.etapas c = none)
  terminada : 0 < v.salida → v.cliente = .cerrado
  espera : ∀ pedido, v.cliente = .espera pedido → v.EnServicio pedido
  sinTurno : hrrn → v.enMano = false ∧ (∀ c, v.etapas c = none) ∧
    ∀ f, v.ficha = some f → f.ioFinished = false

end Vida

namespace Vida

variable {v : Vida} {hrrn : Prop} {f : Ficha} {c : ℕ} {e e' : Etapa}

theorem Ordenada.congr {v' : Vida} (h : v.Ordenada hrrn) (hv : v' = v) : v'.Ordenada hrrn := hv ▸ h

/-- A CPU that is going to answer an IO takes the place of whatever the carpincho had. -/
theorem Lugar.conEtapa (h : v.Lugar f) (he : e = .asignada ∨ e = .ciclo ∨ e = .respondiendoIo)
    (enMano : Bool) : Lugar { v with
      enMano := enMano, etapas := Function.update v.etapas c (some e) } f := by
  have hc : Function.update v.etapas c (some e) c = some e := Function.update_self _ _ _
  rcases h with hb | hl | ⟨hexec, -⟩
  · exact Or.inl hb
  · exact Or.inr (Or.inl hl)
  · refine Or.inr (Or.inr ⟨hexec, Or.inr ⟨c, ?_⟩⟩)
    rcases he with rfl | rfl | rfl
    · exact Or.inl hc
    · exact Or.inr (Or.inl hc)
    · exact Or.inr (Or.inr hc)

section Planificadores

theorem Ordenada.llegada (h : v.Ordenada hrrn) (hv : v.nacida = false) :
    Ordenada { v with ficha := some ⟨.new, false⟩, nuevos := v.nuevos + 1, nacida := true }
      hrrn := by
  obtain ⟨hcliente, hetapas, hmano, hlistos, hbloqueados, hsalida⟩ := h.virgen (Or.inr hv)
  have hnuevos : v.nuevos = 0 := by
    by_contra hno
    have hnacida := (h.nuevo (Nat.pos_of_ne_zero hno)).2.1
    rw [hv] at hnacida
    cases hnacida
  constructor <;> grind [Virgen, EnServicio]

theorem Ordenada.nacimiento (h : v.Ordenada hrrn) : Ordenada { v with nacida := true } hrrn := by
  obtain ⟨hvirgen, hnuevo, hsola, hmano, hsemaforo, hio, hresponde, hlimpia, hmarcada, hbloqueada,
    hlista, hterminada, hespera, hsin⟩ := h
  constructor
  · grind [Virgen]
  · grind
  · exact hsola
  · exact hmano
  · exact hsemaforo
  · exact hio
  · exact hresponde
  · exact hlimpia
  · exact hmarcada
  · exact hbloqueada
  · exact hlista
  · exact hterminada
  · exact hespera
  · exact hsin

theorem Ordenada.admision (h : v.Ordenada hrrn) (hv : 0 < v.nuevos) :
    Ordenada { v with nuevos := v.nuevos - 1, listos := v.listos + 1 } hrrn := by
  obtain ⟨hcliente, hetapas, hmano, hlistos, hbloqueados, hsalida⟩ := h.virgen (Or.inl hv)
  obtain ⟨hnuevos, hnacida, f, hf, hio⟩ := h.nuevo hv
  have hsin := h.sinTurno
  constructor <;> grind [Virgen, EnServicio]

theorem Ordenada.eleccion (h : v.Ordenada hrrn) (hsjf : ¬ hrrn) (hv : 0 < v.listos)
    (hnadie : ∀ c, v.etapas c = none) (hf : v.ficha = some f) : Ordenada { v with
      listos := v.listos - 1, enMano := true, ficha := some { f with status := .exec } } hrrn := by
  obtain ⟨hvirgen, hnuevo, hsola, hmano, hsemaforo, hio, hresponde, hlimpia, hmarcada, hbloqueada,
    hlista, hterminada, hespera, hsin⟩ := h
  obtain ⟨hlistos, f', hf', hready⟩ := hlista hv
  have hnuevos : v.nuevos = 0 ∧ v.nacida = true := by grind [Virgen]
  constructor
  · grind
  · grind
  · exact hsola
  · exact fun _ => hnadie
  · exact hsemaforo
  · grind
  · grind
  · grind
  · grind [Lugar]
  · grind
  · grind
  · exact hterminada
  · intro pedido hpedido
    have hservicio := hespera pedido hpedido
    cases pedido with
    | io nombre => grind [EnServicio, Lugar]
    | semaforo sema => exact hservicio
    | _ => exact hservicio
  · exact fun hno => absurd hno hsjf

theorem Ordenada.asignacion (h : v.Ordenada hrrn) (hv : v.enMano = true) : Ordenada { v with
      enMano := false, etapas := Function.update v.etapas c (some .asignada) } hrrn := by
  obtain ⟨hvirgen, hnuevo, hsola, hmano, hsemaforo, hio, hresponde, hlimpia, hmarcada, hbloqueada,
    hlista, hterminada, hespera, hsin⟩ := h
  have hnadie := hmano hv
  have hcpus : ∀ c', Function.update v.etapas c (some Etapa.asignada) c' =
      if c' = c then some Etapa.asignada else v.etapas c' := fun c' => Function.update_apply _ _ _ _
  have hno : Etapa.asignada.sirviendo = false := rfl
  constructor
  · grind [Virgen]
  · exact hnuevo
  · grind
  · grind
  · grind
  · grind
  · grind
  · grind
  · intro f hf hflag
    rcases hmarcada f hf hflag with ⟨c', hc'⟩ | ⟨hcliente, -, hesta⟩
    · rw [hnadie] at hc'
      cases hc'
    · exact Or.inr ⟨hcliente, by grind, hesta.conEtapa (Or.inl rfl) false⟩
  · exact hbloqueada
  · grind
  · exact hterminada
  · intro pedido hpedido
    have hservicio := hespera pedido hpedido
    cases pedido with
    | io nombre =>
      rcases hservicio with ⟨c', hc'⟩ | ⟨f, hf, hflag, hesta⟩
      · rw [hnadie] at hc'
        cases hc'
      · exact Or.inr ⟨f, hf, hflag, hesta.conEtapa (Or.inl rfl) false⟩
    | semaforo sema => grind [EnServicio]
    | _ => exact hservicio
  · grind

theorem Ordenada.perdida (h : v.Ordenada hrrn)
    (hv : ∀ f, v.ficha = some f → f.ioFinished = false) :
    Ordenada { v with enMano := false } hrrn := by
  obtain ⟨hvirgen, hnuevo, hsola, hmano, hsemaforo, hio, hresponde, hlimpia, hmarcada, hbloqueada,
    hlista, hterminada, hespera, hsin⟩ := h
  constructor
  · grind [Virgen]
  · exact hnuevo
  · exact hsola
  · grind
  · exact hsemaforo
  · exact hio
  · exact hresponde
  · exact hlimpia
  · grind
  · exact hbloqueada
  · grind
  · exact hterminada
  · intro pedido hpedido
    have hservicio := hespera pedido hpedido
    cases pedido with
    | io nombre => grind [EnServicio]
    | semaforo sema => exact hservicio
    | _ => exact hservicio
  · grind

theorem Ordenada.ratio (h : v.Ordenada hrrn) (hhrrn : hrrn) (hf : v.ficha = some f)
    (hv : 0 < v.listos) : Ordenada { v with ficha := some { f with status := .exec } } hrrn := by
  obtain ⟨hsinMano, hetapas, hficha⟩ := h.sinTurno hhrrn
  obtain ⟨hvirgen, hnuevo, hsola, hmano, hsemaforo, hio, hresponde, hlimpia, hmarcada, hbloqueada,
    hlista, hterminada, hespera, hsin⟩ := h
  have hflag := hficha f hf
  constructor
  · grind [Virgen]
  · grind
  · exact hsola
  · exact hmano
  · exact hsemaforo
  · grind
  · grind
  · exact hlimpia
  · grind
  · grind
  · grind
  · exact hterminada
  · intro pedido hpedido
    have hservicio := hespera pedido hpedido
    cases pedido with
    | io nombre => grind [EnServicio]
    | semaforo sema => exact hservicio
    | _ => exact hservicio
  · grind

theorem Ordenada.despierta (h : v.Ordenada hrrn) (hv : 0 < v.bloqueados) (hf : v.ficha = some f)
    (f' : Ficha) (hf' : f'.ioFinished = f.ioFinished) (hexec : f'.status ≠ .exec) :
    Ordenada { v with
      bloqueados := v.bloqueados - 1, listos := v.listos + 1, ficha := some f' } hrrn := by
  obtain ⟨hvirgen, hnuevo, hsola, hmano, hsemaforo, hio, hresponde, hlimpia, hmarcada, hbloqueada,
    hlista, hterminada, hespera, hsin⟩ := h
  obtain ⟨hbloqueados, hlistos, g, hg, hflag, hstatus⟩ := hbloqueada hv
  obtain rfl : f = g := Option.some.inj (hf.symm.trans hg)
  constructor
  · grind [Virgen]
  · grind
  · exact hsola
  · exact hmano
  · exact hsemaforo
  · grind
  · grind
  · grind
  · grind [Lugar]
  · grind
  · grind
  · exact hterminada
  · intro pedido hpedido
    have hservicio := hespera pedido hpedido
    cases pedido with
    | io nombre => grind [EnServicio, Lugar]
    | semaforo sema => exact hservicio
    | _ => exact hservicio
  · grind

theorem Ordenada.liberacion (h : v.Ordenada hrrn) (hv : 0 < v.salida) :
    Ordenada { v with salida := v.salida - 1, ficha := none } hrrn := by
  obtain ⟨hvirgen, hnuevo, hsola, hmano, hsemaforo, hio, hresponde, hlimpia, hmarcada, hbloqueada,
    hlista, hterminada, hespera, hsin⟩ := h
  have hcerrado := hterminada hv
  constructor
  · grind [Virgen]
  · grind [Virgen]
  · exact hsola
  · exact hmano
  · exact hsemaforo
  · grind
  · grind
  · exact hlimpia
  · grind
  · grind
  · grind
  · grind
  · grind
  · grind

end Planificadores

section Cpus

theorem Ordenada.avanza (h : v.Ordenada hrrn) (hc : v.etapas c = some e)
    (he : e = .asignada ∨ e = .ciclo ∨ e = .recibiendo)
    (he' : e' = .ciclo ∨ e' = .recibiendo ∧ ∀ f, v.ficha = some f → f.ioFinished = false) :
    Ordenada { v with etapas := Function.update v.etapas c (some e') } hrrn := by
  obtain ⟨hvirgen, hnuevo, hsola, hmano, hsemaforo, hio, hresponde, hlimpia, hmarcada, hbloqueada,
    hlista, hterminada, hespera, hsin⟩ := h
  have hcpus : ∀ c', Function.update v.etapas c (some e') c' =
      if c' = c then some e' else v.etapas c' := fun c' => Function.update_apply _ _ _ _
  have hciclo : Etapa.ciclo.sirviendo = false := rfl
  have hrecibe : Etapa.recibiendo.sirviendo = false := rfl
  have hasignada : Etapa.asignada.sirviendo = false := rfl
  have hunica : ∀ c' e₁, v.etapas c' = some e₁ → c' = c ∧ e₁ = e := by grind
  constructor
  · grind [Virgen]
  · exact hnuevo
  · grind
  · grind
  · grind
  · grind
  · grind
  · grind
  · intro f hf hflag
    obtain ⟨hcliente, -, hesta⟩ := (hmarcada f hf hflag).resolve_left (by grind)
    rcases he' with rfl | ⟨-, hno⟩
    · exact Or.inr ⟨hcliente, by grind, hesta.conEtapa (Or.inr (Or.inl rfl)) v.enMano⟩
    · rw [hno f hf] at hflag
      cases hflag
  · exact hbloqueada
  · grind
  · exact hterminada
  · intro pedido hpedido
    have hservicio := hespera pedido hpedido
    cases pedido with
    | io nombre =>
      rcases hservicio with ⟨c', hc'⟩ | ⟨f, hf, hflag, hesta⟩
      · grind
      · rcases he' with rfl | ⟨-, hno⟩
        · exact Or.inr ⟨f, hf, hflag, hesta.conEtapa (Or.inr (Or.inl rfl)) v.enMano⟩
        · rw [hno f hf] at hflag
          cases hflag
    | semaforo sema => grind [EnServicio]
    | _ => exact hservicio
  · grind

theorem Ordenada.hallaIo (h : v.Ordenada hrrn) (hc : v.etapas c = some .ciclo)
    (hf : v.ficha = some f) (hexec : f.status = .exec) (hv : f.ioFinished = true) :
    Ordenada { v with etapas := Function.update v.etapas c (some .respondiendoIo) } hrrn := by
  obtain ⟨hvirgen, hnuevo, hsola, hmano, hsemaforo, hio, hresponde, hlimpia, hmarcada, hbloqueada,
    hlista, hterminada, hespera, hsin⟩ := h
  have hcpus : ∀ c', Function.update v.etapas c (some Etapa.respondiendoIo) c' =
      if c' = c then some Etapa.respondiendoIo else v.etapas c' := fun c' =>
    Function.update_apply _ _ _ _
  have hno : Etapa.respondiendoIo.sirviendo = false := rfl
  have hciclo : Etapa.ciclo.sirviendo = false := rfl
  obtain ⟨⟨nombre, hcliente⟩, hcpu, hesta⟩ := (hmarcada f hf hv).resolve_left (by grind)
  have hesta' := hesta.conEtapa (c := c) (Or.inr (Or.inr rfl)) v.enMano
  constructor
  · grind [Virgen]
  · exact hnuevo
  · grind
  · grind
  · grind
  · grind
  · grind
  · grind
  · intro f' hf' hflag
    cases hf.symm.trans hf'
    exact Or.inr ⟨⟨nombre, hcliente⟩, by grind, hesta'⟩
  · exact hbloqueada
  · grind
  · exact hterminada
  · intro pedido hpedido
    have hservicio := hespera pedido hpedido
    cases pedido with
    | io nombre => exact Or.inr ⟨f, hf, hv, hesta'⟩
    | semaforo sema => grind [EnServicio]
    | _ => exact hservicio
  · grind

theorem Ordenada.respuestaIo (h : v.Ordenada hrrn) (hc : v.etapas c = some .respondiendoIo) :
    Ordenada { v with
      etapas := Function.update v.etapas c (some .limpiandoIo)
      cliente := .libre } hrrn := by
  obtain ⟨hvirgen, hnuevo, hsola, hmano, hsemaforo, hio, hresponde, hlimpia, hmarcada, hbloqueada,
    hlista, hterminada, hespera, hsin⟩ := h
  have hcpus : ∀ c', Function.update v.etapas c (some Etapa.limpiandoIo) c' =
      if c' = c then some Etapa.limpiandoIo else v.etapas c' := fun c' =>
    Function.update_apply _ _ _ _
  have hno : Etapa.limpiandoIo.sirviendo = false := rfl
  obtain ⟨hlistos, hbloqueados, ⟨nombre, hcliente⟩, f, hf, hexec, hflag⟩ := hresponde c hc
  constructor
  · grind [Virgen]
  · grind
  · grind
  · grind
  · grind
  · grind
  · grind
  · grind
  · grind
  · grind
  · grind
  · grind
  · grind
  · grind

theorem Ordenada.limpiezaIo (h : v.Ordenada hrrn) (hc : v.etapas c = some .limpiandoIo) :
    Ordenada { v with
      ficha := some { f with ioFinished := false }
      etapas := Function.update v.etapas c (some .recibiendo) } hrrn := by
  obtain ⟨hvirgen, hnuevo, hsola, hmano, hsemaforo, hio, hresponde, hlimpia, hmarcada, hbloqueada,
    hlista, hterminada, hespera, hsin⟩ := h
  have hcpus : ∀ c', Function.update v.etapas c (some Etapa.recibiendo) c' =
      if c' = c then some Etapa.recibiendo else v.etapas c' := fun c' =>
    Function.update_apply _ _ _ _
  have hno : Etapa.recibiendo.sirviendo = false := rfl
  obtain ⟨hlistos, hbloqueados, hcliente⟩ := hlimpia c hc
  constructor
  · grind [Virgen]
  · grind [Virgen]
  · grind
  · grind
  · grind
  · grind
  · grind
  · grind
  · grind
  · grind
  · grind
  · grind
  · grind
  · grind

theorem Ordenada.suelta (h : v.Ordenada hrrn) (hc : v.etapas c = some .ciclo)
    (hf : v.ficha = some f) (hexec : f.status ≠ .exec) :
    Ordenada { v with etapas := Function.update v.etapas c none } hrrn := by
  obtain ⟨hvirgen, hnuevo, hsola, hmano, hsemaforo, hio, hresponde, hlimpia, hmarcada, hbloqueada,
    hlista, hterminada, hespera, hsin⟩ := h
  have hcpus : ∀ c', Function.update v.etapas c none c' =
      if c' = c then none else v.etapas c' := fun c' => Function.update_apply _ _ _ _
  have hno : Etapa.ciclo.sirviendo = false := rfl
  constructor
  · grind [Virgen]
  · exact hnuevo
  · grind
  · grind
  · grind
  · grind
  · grind
  · grind
  · grind [Lugar]
  · exact hbloqueada
  · grind
  · exact hterminada
  · intro pedido hpedido
    have hservicio := hespera pedido hpedido
    cases pedido with
    | io nombre => grind [EnServicio, Lugar]
    | semaforo sema => grind [EnServicio]
    | _ => exact hservicio
  · grind

theorem Ordenada.bloqueoIo (h : v.Ordenada hrrn) (hc : v.etapas c = some .bloqueandoPorIo)
    (hf : v.ficha = some f) : Ordenada { v with
      ficha := some { f with ioFinished := true }
      bloqueados := v.bloqueados + 1
      etapas := Function.update v.etapas c (some .ciclo) } hrrn := by
  obtain ⟨hvirgen, hnuevo, hsola, hmano, hsemaforo, hio, hresponde, hlimpia, hmarcada, hbloqueada,
    hlista, hterminada, hespera, hsin⟩ := h
  have hcpus : ∀ c', Function.update v.etapas c (some Etapa.ciclo) c' =
      if c' = c then some Etapa.ciclo else v.etapas c' := fun c' => Function.update_apply _ _ _ _
  have hno : Etapa.ciclo.sirviendo = false := rfl
  have hsirve : Etapa.bloqueandoPorIo.sirviendo = true := rfl
  obtain ⟨⟨nombre, hcliente⟩, hlistos, hbloqueados, g, hg, hstatus, hflag⟩ := hio c hc
  obtain rfl : f = g := Option.some.inj (hf.symm.trans hg)
  constructor
  · grind [Virgen]
  · grind [Virgen]
  · grind
  · grind
  · grind
  · grind
  · grind
  · grind
  · grind [Lugar]
  · grind
  · grind
  · exact hterminada
  · grind [EnServicio, Lugar]
  · grind

theorem Ordenada.fin (h : v.Ordenada hrrn) (hc : v.etapas c = some e)
    (he : e.atendiendo = true) : Ordenada { v with
      etapas := Function.update v.etapas c (some .ciclo), cliente := .libre } hrrn := by
  obtain ⟨hvirgen, hnuevo, hsola, hmano, hsemaforo, hio, hresponde, hlimpia, hmarcada, hbloqueada,
    hlista, hterminada, hespera, hsin⟩ := h
  have hcpus : ∀ c', Function.update v.etapas c (some Etapa.ciclo) c' =
      if c' = c then some Etapa.ciclo else v.etapas c' := fun c' => Function.update_apply _ _ _ _
  have hno : Etapa.ciclo.sirviendo = false := rfl
  have hsirve : e.sirviendo = true := by rw [Etapa.sirviendo, he, Bool.true_or]
  have hnoIo : e ≠ .bloqueandoPorIo ∧ e ≠ .limpiandoIo := by
    constructor <;> (rintro rfl; cases he)
  obtain ⟨sema, hcliente⟩ := hsemaforo c e hc hsirve hnoIo.1
  constructor
  · grind [Virgen]
  · exact hnuevo
  · grind
  · grind
  · grind
  · grind
  · grind
  · grind
  · grind
  · exact hbloqueada
  · grind
  · grind
  · grind
  · grind

end Cpus

section Peticiones

/-- A carpincho that asks is in no queue, is being served by no CPU and is owed no answer. -/
theorem Ordenada.atendible (h : v.Ordenada hrrn) (hc : v.etapas c = some .recibiendo)
    (hcliente : v.cliente = .libre) :
    (v.nuevos = 0 ∧ v.nacida = true ∧ v.listos = 0 ∧ v.bloqueados = 0 ∧ v.salida = 0 ∧ ¬ hrrn) ∧
      (∀ f, v.ficha = some f → f.ioFinished = false) ∧
      v.enMano = false ∧ ∀ c' e, v.etapas c' = some e → c' = c ∧ e = .recibiendo := by
  obtain ⟨hvirgen, hnuevo, hsola, hmano, hsemaforo, hio, hresponde, hlimpia, hmarcada, hbloqueada,
    hlista, hterminada, hespera, hsin⟩ := h
  refine ⟨?_, ?_, ?_, ?_⟩
  · grind [Virgen]
  · grind
  · grind
  · grind

theorem Ordenada.pedidoIo (h : v.Ordenada hrrn) (hc : v.etapas c = some .recibiendo)
    (hcliente : v.cliente = .libre) (hf : v.ficha = some f) (nombre : String) :
    Ordenada { v with
      ficha := some { f with status := .blocked }
      etapas := Function.update v.etapas c (some .bloqueandoPorIo)
      cliente := .espera (.io nombre) } hrrn := by
  obtain ⟨⟨hnuevos, hnacida, hlistos, hbloqueados, hsalida, hsjf⟩, hflag, hsinMano, hcpu⟩ :=
    h.atendible hc hcliente
  have hcpus : ∀ c', Function.update v.etapas c (some Etapa.bloqueandoPorIo) c' =
      if c' = c then some Etapa.bloqueandoPorIo else v.etapas c' := fun c' =>
    Function.update_apply _ _ _ _
  have hsirve : Etapa.bloqueandoPorIo.sirviendo = true := rfl
  constructor <;> grind [EnServicio]

theorem Ordenada.pedidoSemaforo (h : v.Ordenada hrrn) (hc : v.etapas c = some .recibiendo)
    (hcliente : v.cliente = .libre) {ficha : Option Ficha}
    (hficha : ∀ f, ficha = some f → f.ioFinished = false) (he : e.sirviendo = true)
    (hno : e ≠ .bloqueandoPorIo) (sema : Semaforo) : Ordenada { v with
      ficha := ficha
      etapas := Function.update v.etapas c (some e)
      cliente := .espera (.semaforo sema) } hrrn := by
  obtain ⟨⟨hnuevos, hnacida, hlistos, hbloqueados, hsalida, hsjf⟩, hflag, hsinMano, hcpu⟩ :=
    h.atendible hc hcliente
  have hcpus : ∀ c', Function.update v.etapas c (some e) c' =
      if c' = c then some e else v.etapas c' := fun c' => Function.update_apply _ _ _ _
  have hsirveIo : Etapa.bloqueandoPorIo.sirviendo = true := rfl
  have hresponde : Etapa.respondiendoIo.sirviendo = false := rfl
  have hlimpia : Etapa.limpiandoIo.sirviendo = false := rfl
  constructor <;> grind [EnServicio]

theorem Ordenada.finalizacion (h : v.Ordenada hrrn) (hc : v.etapas c = some .recibiendo)
    (hcliente : v.cliente = .libre) (hf : v.ficha = some f) : Ordenada { v with
      ficha := some { f with status := .finished }
      salida := v.salida + 1
      etapas := Function.update v.etapas c (some .ciclo)
      cliente := .cerrado } hrrn := by
  obtain ⟨⟨hnuevos, hnacida, hlistos, hbloqueados, hsalida, hsjf⟩, hflag, hsinMano, hcpu⟩ :=
    h.atendible hc hcliente
  have hcpus : ∀ c', Function.update v.etapas c (some Etapa.ciclo) c' =
      if c' = c then some Etapa.ciclo else v.etapas c' := fun c' => Function.update_apply _ _ _ _
  have hno : Etapa.ciclo.sirviendo = false := rfl
  have hsirveIo : Etapa.bloqueandoPorIo.sirviendo = true := rfl
  constructor <;> grind [EnServicio]

end Peticiones

end Vida

end Carpinchos.Kernel
