import Carpinchos.Kernel.Lugares
import Carpinchos.Kernel.Vida

/-!
# Requests and answers

The library sends one message and waits for the answer before it sends the next one, and
sends none after its end has been answered; the memory answers for itself. The kernel is run
with its carpinchos, and with the count of their requests and of its answers. Every request
is answered once: until then it is being served by one CPU, or its carpincho is in BLOCKED,
in READY or on its way to a CPU that will answer the IO. But a WAIT that finds no unit is
answered at the end of `operacionesSemaforo` like any other, with the carpincho in BLOCKED.
`IO_finished` is tested, answered and cleared without a lock, so a carpincho must not be chosen
while a CPU still has it: two CPUs would answer its IO.
-/

namespace Carpinchos.Kernel

open Outcome Queues Runs

structure Dialogo where
  kernel : Estado
  cliente : ℕ → Cliente
  pedidos : ℕ → ℕ
  respuestas : ℕ → ℕ

def Cliente.esperando : Cliente → Bool
  | .espera _ => true
  | _ => false

def Cliente.contestado : Cliente → Cliente
  | .espera .finalizacion => .cerrado
  | .espera _ => .libre
  | cliente => cliente

def contestados (cliente : ℕ → Cliente) (ps : List ℕ) (p : ℕ) : Cliente :=
  if p ∈ ps then (cliente p).contestado else cliente p

namespace Dialogo

def inicial (cfg : Config) : Dialogo :=
  ⟨Kernel.inicial cfg, fun _ => .libre, fun _ => 0, fun _ => 0⟩

def pedir (d : Dialogo) (p : ℕ) (pedido : Pedido) : Except Falla Dialogo :=
  if d.cliente p = .libre then
    if pedido = .memoria then .ok d
    else .ok { d with
      cliente := Function.update d.cliente p (.espera pedido)
      pedidos := Function.update d.pedidos p (d.pedidos p + 1) }
  else .error .noHabilitado

def entregar (d : Dialogo) : Turno → Except Falla Dialogo
  | .hilo (.recibe c pedido) => d.pedir (d.kernel.cpusExec c).pcbCarpincho pedido
  | _ => .ok d

def contestar (d : Dialogo) (o : List Suceso) (k : Estado) : Dialogo where
  kernel := k
  cliente := contestados d.cliente (respondidos o)
  pedidos := d.pedidos
  respuestas p := d.respuestas p + (respondidos o).count p

def paso (cfg : Config) (m : Turno) (d : Dialogo) : Except Falla (List Suceso × Dialogo) := do
  let d ← d.entregar m
  let (o, k) ← Estado.pasoTurno cfg m d.kernel
  .ok (o, d.contestar o k)

end Dialogo

namespace Tablero

instance (s : Tablero) (p c : ℕ) : Decidable (s.Ocupa p c) :=
  inferInstanceAs (Decidable (_ ∧ _))

def vida (s : Tablero) (cliente : Cliente) (p : ℕ) : Vida where
  ficha := s.ficha p
  nuevos := s.nuevos.count p
  listos := s.listos.count p
  bloqueados := s.bloqueados.count p
  salida := s.salida.count p
  enMano := s.corto = .asignando p
  etapas c := if s.Ocupa p c then some (s.cpu c).etapa else none
  nacida := p < s.proxima
  cliente := cliente

section Vidas

variable {s s' : Tablero} {cliente : Cliente} {c p q : ℕ} {f : Ficha} {e etapa : Etapa}

theorem vida_conFicha (s : Tablero) (cliente : Cliente) (q : ℕ) (f : Ficha) (p : ℕ) :
    (s.conFicha q f).vida cliente p =
      if p = q then { s.vida cliente p with ficha := some f } else s.vida cliente p := by
  by_cases hp : p = q
  · subst hp
    rw [if_pos rfl]
    have hficha : (s.conFicha p f).ficha p = some f := Function.update_self _ _ _
    rw [← hficha]
    rfl
  · rw [if_neg hp]
    have hficha : (s.conFicha q f).ficha p = s.ficha p := Function.update_of_ne hp _ _
    unfold vida
    rw [hficha]
    rfl

theorem vida_conFicha_self (s : Tablero) (cliente : Cliente) (p : ℕ) (f : Ficha) :
    (s.conFicha p f).vida cliente p = { s.vida cliente p with ficha := some f } := by
  rw [vida_conFicha, if_pos rfl]

theorem vida_conFicha_of_ne (hp : p ≠ q) :
    (s.conFicha q f).vida cliente p = s.vida cliente p := by
  rw [vida_conFicha, if_neg hp]

theorem etapas_congr (hcpu : ∀ c', c' ≠ c → s'.cpu c' = s.cpu c')
    (hc : ¬ s.Ocupa p c) (hc' : ¬ s'.Ocupa p c) :
    (s'.vida cliente p).etapas = (s.vida cliente p).etapas := by
  funext c'
  by_cases hcc : c' = c
  · subst hcc
    simp only [vida, if_neg hc, if_neg hc']
  · have hocupa : s'.Ocupa p c' ↔ s.Ocupa p c' := by rw [Ocupa, Ocupa, hcpu c' hcc]
    simp only [vida, hocupa, hcpu c' hcc]

theorem etapas_update (hcpu : ∀ c', c' ≠ c → s'.cpu c' = s.cpu c') (hc : s'.Ocupa p c) :
    (s'.vida cliente p).etapas =
      Function.update (s.vida cliente p).etapas c (some (s'.cpu c).etapa) := by
  funext c'
  by_cases hcc : c' = c
  · subst hcc
    simp only [Function.update_self, vida, if_pos hc]
  · have hocupa : s'.Ocupa p c' ↔ s.Ocupa p c' := by rw [Ocupa, Ocupa, hcpu c' hcc]
    simp only [Function.update_of_ne hcc, vida, hocupa, hcpu c' hcc]

theorem enMano_congr (h : s.corto ≠ .asignando p) (h' : s'.corto ≠ .asignando p) :
    (s'.vida cliente p).enMano = (s.vida cliente p).enMano :=
  decide_eq_decide.2 (iff_of_false h' h)

theorem cpu_conCpu_of_ne {cpu : Cpu} {c' : ℕ} (hc : c' ≠ c) : (s.conCpu c cpu).cpu c' = s.cpu c' :=
  Function.update_of_ne hc _ _

theorem cpu_conCpu_self (s : Tablero) (c : ℕ) (cpu : Cpu) : (s.conCpu c cpu).cpu c = cpu :=
  Function.update_self _ _ _

theorem vida_conEtapa (hc : (s.cpu c).libre = false) (cliente : Cliente) (etapa : Etapa) (p : ℕ) :
    (s.conEtapa c etapa).vida cliente p =
      if p = (s.cpu c).pcbCarpincho then
        { s.vida cliente p with
          etapas := Function.update (s.vida cliente p).etapas c (some etapa) }
      else s.vida cliente p := by
  have hotras : ∀ c', c' ≠ c → (s.conEtapa c etapa).cpu c' = s.cpu c' := fun c' hcc =>
    cpu_conCpu_of_ne hcc
  have hocupa : (s.conEtapa c etapa).Ocupa p c ↔ s.Ocupa p c := ocupa_conEtapa c
  split
  · next hp =>
    have hetapas := @etapas_update s (s.conEtapa c etapa) cliente c p hotras
      (hocupa.2 ⟨hc, hp.symm⟩)
    have hetapa : ((s.conEtapa c etapa).cpu c).etapa = etapa := by
      rw [Tablero.conEtapa, cpu_conCpu_self]
    rw [hetapa] at hetapas
    exact Vida.ext rfl rfl rfl rfl rfl rfl hetapas rfl rfl
  · next hp =>
    have hno : ¬ s.Ocupa p c := fun h => hp h.2.symm
    have hetapas := @etapas_congr s (s.conEtapa c etapa) cliente c p hotras hno
      (fun h => hno (hocupa.1 h))
    exact Vida.ext rfl rfl rfl rfl rfl rfl hetapas rfl rfl

end Vidas

structure Regular (cfg : Config) (cpu : ℕ → Cpu) : Prop where
  ocupada : ∀ c, (cpu c).etapa ≠ .esperando → (cpu c).libre = false
  atareada : ∀ c, (cpu c).libre = false →
    (cpu c).etapa ≠ .esperando ∧ c < cfg.gradoMultiprocesamiento

theorem Regular.update {cfg : Config} {cpus : ℕ → Cpu} {c : ℕ} {cpu : Cpu} (h : Regular cfg cpus)
    (hocupada : cpu.etapa ≠ .esperando → cpu.libre = false)
    (hatareada : cpu.libre = false → cpu.etapa ≠ .esperando ∧ c < cfg.gradoMultiprocesamiento) :
    Regular cfg (Function.update cpus c cpu) := by
  constructor
  · intro c'
    rw [Function.update_apply]
    split
    · exact hocupada
    · exact h.ocupada c'
  · intro c'
    rw [Function.update_apply]
    split
    · next hcc => exact hcc ▸ hatareada
    · exact h.atareada c'

/-- Every carpincho leads an ordered life. -/
structure Ordenado (cfg : Config) (s : Tablero) (cliente : ℕ → Cliente) : Prop where
  vidas : ∀ p, (s.vida (cliente p) p).Ordenada (cfg.algoritmoPlanificacion = .hrrn)
  cpus : Regular cfg s.cpu
  suspendidos : s.suspendidos = []

section Ordenado

variable {cfg : Config} {s s' : Tablero} {cliente : ℕ → Cliente} {x : Cliente} {p c i : ℕ}
  {f f' : Ficha} {e etapa : Etapa}

theorem Ordenado.uno (h : s.Ordenado cfg cliente)
    (hp : (s'.vida x p).Ordenada (cfg.algoritmoPlanificacion = .hrrn))
    (hotros : ∀ q, q ≠ p → ∀ y, s'.vida y q = s.vida y q)
    (hcpus : Regular cfg s'.cpu)
    (hsuspendidos : s'.suspendidos = []) :
    s'.Ordenado cfg (Function.update cliente p x) where
  vidas q := by
    by_cases hq : q = p
    · rw [hq, Function.update_self]
      exact hp
    · rw [Function.update_of_ne hq, hotros q hq]
      exact h.vidas q
  cpus := hcpus
  suspendidos := hsuspendidos

theorem Ordenado.mudo (h : s.Ordenado cfg cliente)
    (hp : (s'.vida (cliente p) p).Ordenada (cfg.algoritmoPlanificacion = .hrrn))
    (hotros : ∀ q, q ≠ p → ∀ y, s'.vida y q = s.vida y q)
    (hcpus : Regular cfg s'.cpu)
    (hsuspendidos : s'.suspendidos = []) : s'.Ordenado cfg cliente := by
  have huno := h.uno hp hotros hcpus hsuspendidos
  rwa [Function.update_eq_self] at huno

theorem Ordenado.nadie (h : s.Ordenado cfg cliente) (hvidas : ∀ q y, s'.vida y q = s.vida y q)
    (hcpu : s'.cpu = s.cpu) (hsuspendidos : s'.suspendidos = s.suspendidos) :
    s'.Ordenado cfg cliente where
  vidas q := by
    rw [hvidas]
    exact h.vidas q
  cpus := by
    rw [hcpu]
    exact h.cpus
  suspendidos := hsuspendidos.trans h.suspendidos

theorem Regular.conEtapa (h : Regular cfg s.cpu) (hc : (s.cpu c).libre = false)
    (hetapa : etapa ≠ .esperando) : Regular cfg (s.conEtapa c etapa).cpu :=
  h.update (fun _ => hc) fun _ => ⟨hetapa, (h.atareada c hc).2⟩

theorem Ordenado.conEtapa (h : s.Ordenado cfg cliente) (hc : (s.cpu c).libre = false)
    (hetapa : etapa ≠ .esperando) (hcpu : s'.cpu = s.cpu)
    (hsuspendidos : s'.suspendidos = s.suspendidos)
    (hotros : ∀ q, q ≠ (s.cpu c).pcbCarpincho → ∀ y, s'.vida y q = s.vida y q)
    (hp : Vida.Ordenada { s'.vida x (s.cpu c).pcbCarpincho with
      etapas := Function.update (s'.vida x (s.cpu c).pcbCarpincho).etapas c (some etapa) }
      (cfg.algoritmoPlanificacion = .hrrn)) :
    (s'.conEtapa c etapa).Ordenado cfg (Function.update cliente (s.cpu c).pcbCarpincho x) := by
  rw [← hcpu] at hc hp hotros ⊢
  apply h.uno
  · rw [vida_conEtapa hc, if_pos rfl]
    exact hp
  · intro q hq y
    rw [vida_conEtapa hc, if_neg hq]
    exact hotros q hq y
  · exact Regular.conEtapa (hcpu ▸ h.cpus) hc hetapa
  · exact hsuspendidos.trans h.suspendidos

theorem Ordenado.conEtapa_self (h : s.Ordenado cfg cliente) (hc : (s.cpu c).libre = false)
    (hetapa : etapa ≠ .esperando)
    (hp : Vida.Ordenada { s.vida x (s.cpu c).pcbCarpincho with
      etapas := Function.update (s.vida x (s.cpu c).pcbCarpincho).etapas c (some etapa) }
      (cfg.algoritmoPlanificacion = .hrrn)) :
    (s.conEtapa c etapa).Ordenado cfg (Function.update cliente (s.cpu c).pcbCarpincho x) :=
  h.conEtapa hc hetapa rfl rfl (fun _ _ _ => rfl) hp

theorem Ordenado.etapa_ne (h : s.Ordenado cfg cliente) (hc : (s.cpu c).etapa = e)
    (he : e ≠ .esperando) :
    (s.cpu c).libre = false ∧ ∀ y, (s.vida y (s.cpu c).pcbCarpincho).etapas c = some e := by
  have hlibre := h.cpus.ocupada c (hc ▸ he)
  refine ⟨hlibre, fun y => ?_⟩
  have hocupa : s.Ocupa (s.cpu c).pcbCarpincho c := ⟨hlibre, rfl⟩
  rw [← hc]
  exact if_pos hocupa

theorem Ordenado.avanza (h : s.Ordenado cfg cliente) (hc : (s.cpu c).etapa = e)
    (he : e = .asignada ∨ e = .ciclo ∨ e = .recibiendo)
    (hetapa : etapa = .ciclo ∨ etapa = .recibiendo ∧
      ∀ f, s.ficha (s.cpu c).pcbCarpincho = some f → f.ioFinished = false) :
    (s.conEtapa c etapa).Ordenado cfg cliente := by
  have hno : e ≠ .esperando := by rcases he with rfl | rfl | rfl <;> simp
  have hno' : etapa ≠ .esperando := by rcases hetapa with rfl | ⟨rfl, -⟩ <;> simp
  obtain ⟨hlibre, hetapas⟩ := h.etapa_ne hc hno
  have hpaso := h.conEtapa_self hlibre hno' ((h.vidas _).avanza (hetapas _) he hetapa)
  rwa [Function.update_eq_self] at hpaso

theorem count_append_self (l : List ℕ) (p : ℕ) : (l ++ [p]).count p = l.count p + 1 := by
  rw [List.count_append, List.count_singleton_self]

theorem count_append_of_ne (l : List ℕ) {p q : ℕ} (hq : q ≠ p) :
    (l ++ [p]).count q = l.count q := by
  rw [List.count_append, List.count_eq_zero.2 (fun h => hq (List.mem_singleton.1 h)), Nat.add_zero]

theorem count_eraseIdx_self {l : List ℕ} (hp : l[i]? = some p) :
    (l.eraseIdx i).count p = l.count p - 1 := by
  have hperm := (cons_eraseIdx_perm hp).count_eq p
  rw [List.count_cons_self] at hperm
  omega

theorem count_eraseIdx_of_ne {l : List ℕ} {q : ℕ} (hp : l[i]? = some p) (hq : q ≠ p) :
    (l.eraseIdx i).count q = l.count q := by
  have hperm := (cons_eraseIdx_perm hp).count_eq q
  rwa [List.count_cons_of_ne hq.symm] at hperm

theorem count_pos_of_getElem {l : List ℕ} (hp : l[i]? = some p) : 0 < l.count p :=
  List.count_pos_iff.2 (List.mem_of_getElem? hp)

theorem Ordenado.llegada (h : s.Ordenado cfg cliente) :
    Ordenado cfg ({ s with nuevos := s.nuevos ++ [s.proxima], proxima := s.proxima + 1 }.conFicha
      s.proxima ⟨.new, false⟩) cliente := by
  apply @Ordenado.mudo cfg s _ cliente s.proxima h
  · have hnace := (h.vidas s.proxima).llegada (decide_eq_false (lt_irrefl _))
    rw [vida_conFicha, if_pos rfl]
    apply hnace.congr
    refine Vida.ext rfl (count_append_self _ _) rfl rfl rfl rfl rfl ?_ rfl
    exact decide_eq_true (Nat.lt_succ_self _)
  · intro q hq y
    rw [vida_conFicha, if_neg hq]
    refine Vida.ext rfl (count_append_of_ne _ hq) rfl rfl rfl rfl rfl ?_ rfl
    have hmenor : q < s.proxima + 1 ↔ q < s.proxima := by omega
    exact decide_eq_decide.2 hmenor
  · exact h.cpus
  · exact h.suspendidos

theorem Ordenado.admision (h : s.Ordenado cfg cliente) {ps : List ℕ} (hnuevos : s.nuevos = p :: ps)
    (n m : ℕ) : Ordenado cfg { s with
      lugares := n, nuevos := ps, listos := s.listos ++ [p], cantidad := m } cliente := by
  apply @Ordenado.mudo cfg s _ cliente p h
  · have hcuenta : s.nuevos.count p = ps.count p + 1 := by rw [hnuevos, List.count_cons_self]
    have hpos : 0 < s.nuevos.count p := by omega
    apply ((h.vidas p).admision hpos).congr
    refine Vida.ext rfl ?_ (count_append_self _ _) rfl rfl rfl rfl rfl rfl
    exact (Nat.sub_eq_of_eq_add hcuenta).symm
  · intro q hq y
    refine Vida.ext rfl ?_ (count_append_of_ne _ hq) rfl rfl rfl rfl rfl rfl
    show ps.count q = s.nuevos.count q
    rw [hnuevos, List.count_cons_of_ne hq.symm]
  · exact h.cpus
  · exact h.suspendidos

theorem Ordenado.eleccion (h : s.Ordenado cfg cliente) (halg : cfg.algoritmoPlanificacion = .sjf)
    (hcorto : ∀ q, s.corto ≠ .asignando q) (hp : s.listos[i]? = some p)
    (hsuelto : ∀ c, ¬ s.Ocupa p c) (hf : s.ficha p = some f) : Ordenado cfg ({ s with
      listos := s.listos.eraseIdx i, corto := .asignando p }.conFicha p { f with
        status := .exec }) cliente := by
  have hsjf : ¬ cfg.algoritmoPlanificacion = .hrrn := by simp [halg]
  apply @Ordenado.mudo cfg s _ cliente p h
  · rw [vida_conFicha, if_pos rfl]
    apply ((h.vidas p).eleccion hsjf (count_pos_of_getElem hp)
      (fun c => if_neg (hsuelto c)) hf).congr
    refine Vida.ext rfl rfl (count_eraseIdx_self hp) rfl rfl ?_ rfl rfl rfl
    exact decide_eq_true rfl
  · intro q hq y
    rw [vida_conFicha, if_neg hq]
    refine Vida.ext rfl rfl (count_eraseIdx_of_ne hp hq) rfl rfl ?_ rfl rfl rfl
    apply enMano_congr (hcorto q)
    simpa [conFicha] using hq.symm
  · exact h.cpus
  · exact h.suspendidos

theorem Ordenado.asignacion (h : s.Ordenado cfg cliente) (hcorto : s.corto = .asignando p)
    (hc : c < cfg.gradoMultiprocesamiento) (hlibre : (s.cpu c).libre = true) :
    Ordenado cfg ({ s with corto := .esperandoListo }.conCpu c ⟨false, p, .asignada⟩) cliente := by
  have hotras : ∀ c', c' ≠ c →
      ({ s with corto := .esperandoListo }.conCpu c ⟨false, p, .asignada⟩).cpu c' = s.cpu c' :=
    fun c' hcc => cpu_conCpu_of_ne hcc
  have hself := cpu_conCpu_self { s with corto := .esperandoListo } c ⟨false, p, .asignada⟩
  have hsin : ∀ q, ¬ s.Ocupa q c := fun q hq => Bool.false_ne_true (hq.1.symm.trans hlibre)
  apply @Ordenado.mudo cfg s _ cliente p h
  · have hmano : (s.vida (cliente p) p).enMano = true := decide_eq_true hcorto
    apply ((h.vidas p).asignacion hmano).congr
    refine Vida.ext rfl rfl rfl rfl rfl rfl ?_ rfl rfl
    have hocupa :
        Ocupa ({ s with corto := .esperandoListo }.conCpu c ⟨false, p, .asignada⟩) p c := by
      rw [Ocupa, hself]
      exact ⟨rfl, rfl⟩
    have hetapas := @etapas_update s _ (cliente p) c p hotras hocupa
    rw [hself] at hetapas
    exact hetapas
  · intro q hq y
    refine Vida.ext rfl rfl rfl rfl rfl ?_ ?_ rfl rfl
    · apply enMano_congr
      · rw [hcorto]
        simpa using hq.symm
      · simp [conCpu]
    · apply @etapas_congr s _ y c q hotras (hsin q)
      rw [Ocupa, hself]
      exact fun hno => hq hno.2.symm
  · exact h.cpus.update (fun _ => rfl) fun _ => ⟨by simp, hc⟩
  · exact h.suspendidos

theorem Ordenado.perdida (h : s.Ordenado cfg cliente) (hcorto : s.corto = .asignando p)
    (hio : ∀ f, s.ficha p = some f → f.ioFinished = false) :
    Ordenado cfg { s with corto := .esperandoListo } cliente := by
  apply @Ordenado.mudo cfg s _ cliente p h
  · exact (h.vidas p).perdida hio
  · intro q hq y
    refine Vida.ext rfl rfl rfl rfl rfl ?_ rfl rfl rfl
    apply enMano_congr
    · rw [hcorto]
      simpa using hq.symm
    · simp
  · exact h.cpus
  · exact h.suspendidos

theorem Ordenado.conCorto (h : s.Ordenado cfg cliente) (hcorto : ∀ q, s.corto ≠ .asignando q)
    (corto : CortoPlazo) (hcorto' : ∀ q, corto ≠ .asignando q) (m : ℕ) :
    Ordenado cfg { s with corto := corto, cantidad := m } cliente := by
  apply h.nadie
  · intro q y
    refine Vida.ext rfl rfl rfl rfl rfl ?_ rfl rfl rfl
    exact enMano_congr (hcorto q) (hcorto' q)
  · rfl
  · rfl

theorem Ordenado.ratio (h : s.Ordenado cfg cliente) (halg : cfg.algoritmoPlanificacion = .hrrn)
    (hp : s.listos[i]? = some p) (hf : s.ficha p = some f) :
    Ordenado cfg ({ s with corto := .esperandoListo }.conFicha p { f with status := .exec })
      cliente := by
  have hcorto : ∀ q, s.corto ≠ .asignando q := fun q =>
    of_decide_eq_false ((h.vidas q).sinTurno halg).1
  have h' := h.conCorto hcorto .esperandoListo (by simp) s.cantidad
  apply h'.mudo
  · rw [vida_conFicha, if_pos rfl]
    exact (h'.vidas p).ratio halg hf (count_pos_of_getElem hp)
  · intro q hq y
    rw [vida_conFicha, if_neg hq]
  · exact h.cpus
  · exact h.suspendidos

theorem Ordenado.hallaIo (h : s.Ordenado cfg cliente) (hetapa : (s.cpu c).etapa = .ciclo)
    (hf : s.ficha (s.cpu c).pcbCarpincho = some f) (hexec : f.status = .exec)
    (hio : f.ioFinished = true) : (s.conEtapa c .respondiendoIo).Ordenado cfg cliente := by
  obtain ⟨hlibre, hetapas⟩ := h.etapa_ne hetapa (by simp)
  have hpaso := h.conEtapa_self hlibre (by simp)
    ((h.vidas _).hallaIo (hetapas _) hf hexec hio)
  rwa [Function.update_eq_self] at hpaso

theorem Ordenado.respuestaIo (h : s.Ordenado cfg cliente)
    (hetapa : (s.cpu c).etapa = .respondiendoIo) :
    (s.conEtapa c .limpiandoIo).Ordenado cfg
      (Function.update cliente (s.cpu c).pcbCarpincho .libre) ∧
      ∃ nombre, cliente (s.cpu c).pcbCarpincho = .espera (.io nombre) := by
  obtain ⟨hlibre, hetapas⟩ := h.etapa_ne hetapa (by simp)
  obtain ⟨-, -, hcliente, -⟩ := (h.vidas _).responde c (hetapas _)
  refine ⟨h.conEtapa_self hlibre (by simp) ?_, hcliente⟩
  exact (h.vidas _).respuestaIo (hetapas _)

theorem Ordenado.limpiezaIo (h : s.Ordenado cfg cliente)
    (hetapa : (s.cpu c).etapa = .limpiandoIo) (f : Ficha) :
    ((s.conFicha (s.cpu c).pcbCarpincho { f with ioFinished := false }).conEtapa c
      .recibiendo).Ordenado cfg cliente := by
  obtain ⟨hlibre, hetapas⟩ := h.etapa_ne hetapa (by simp)
  rw [← Function.update_eq_self (s.cpu c).pcbCarpincho cliente]
  apply h.conEtapa hlibre (by simp)
  · rfl
  · rfl
  · intro q hq y
    exact vida_conFicha_of_ne hq
  · rw [vida_conFicha_self]
    exact (h.vidas _).limpiezaIo (hetapas _)

theorem Ordenado.bloqueoIo (h : s.Ordenado cfg cliente)
    (hetapa : (s.cpu c).etapa = .bloqueandoPorIo)
    (hf : s.ficha (s.cpu c).pcbCarpincho = some f) :
    (({ s with bloqueados := s.bloqueados ++ [(s.cpu c).pcbCarpincho] }.conFicha
      (s.cpu c).pcbCarpincho { f with ioFinished := true }).conEtapa c .ciclo).Ordenado cfg
        cliente := by
  obtain ⟨hlibre, hetapas⟩ := h.etapa_ne hetapa (by simp)
  rw [← Function.update_eq_self (s.cpu c).pcbCarpincho cliente]
  apply h.conEtapa hlibre (by simp)
  · rfl
  · rfl
  · intro q hq y
    rw [vida_conFicha_of_ne hq]
    exact Vida.ext rfl rfl rfl (count_append_of_ne _ hq) rfl rfl rfl rfl rfl
  · rw [vida_conFicha_self]
    apply ((h.vidas _).bloqueoIo (hetapas _) hf).congr
    exact Vida.ext rfl rfl rfl (count_append_self _ _) rfl rfl rfl rfl rfl

theorem Ordenado.fin (h : s.Ordenado cfg cliente) (hetapa : (s.cpu c).etapa.atendiendo = true) :
    (s.conEtapa c .ciclo).Ordenado cfg (Function.update cliente (s.cpu c).pcbCarpincho .libre) ∧
      ∃ sema, cliente (s.cpu c).pcbCarpincho = .espera (.semaforo sema) := by
  obtain ⟨hespera, hbloqueando⟩ := Estado.atendiendo_sin_bloquear hetapa
  obtain ⟨hlibre, hetapas⟩ := h.etapa_ne rfl hespera
  have hsirve : (s.cpu c).etapa.sirviendo = true := by rw [Etapa.sirviendo, hetapa, Bool.true_or]
  have hio : (s.cpu c).etapa ≠ .bloqueandoPorIo := by
    intro hno
    rw [hno] at hbloqueando
    cases hbloqueando
  refine ⟨h.conEtapa_self hlibre (by simp) ?_, ?_⟩
  · exact (h.vidas _).fin (hetapas _) hetapa
  · exact (h.vidas _).semaforo c _ (hetapas _) hsirve hio

theorem Ordenado.pedidoIo (h : s.Ordenado cfg cliente) (hetapa : (s.cpu c).etapa = .recibiendo)
    (hcliente : cliente (s.cpu c).pcbCarpincho = .libre)
    (hf : s.ficha (s.cpu c).pcbCarpincho = some f) (nombre : String) :
    ((s.conFicha (s.cpu c).pcbCarpincho { f with status := .blocked }).conEtapa c
      .bloqueandoPorIo).Ordenado cfg
        (Function.update cliente (s.cpu c).pcbCarpincho (.espera (.io nombre))) := by
  obtain ⟨hlibre, hetapas⟩ := h.etapa_ne hetapa (by simp)
  apply h.conEtapa hlibre (by simp)
  · rfl
  · rfl
  · intro q hq y
    exact vida_conFicha_of_ne hq
  · rw [vida_conFicha_self]
    exact (h.vidas _).pedidoIo (hetapas _) hcliente hf nombre

theorem Ordenado.pedidoSemaforo (h : s.Ordenado cfg cliente)
    (hetapa : (s.cpu c).etapa = .recibiendo)
    (hcliente : cliente (s.cpu c).pcbCarpincho = .libre) (hatiende : etapa.atendiendo = true)
    (sema : Semaforo) : (s.conEtapa c etapa).Ordenado cfg
      (Function.update cliente (s.cpu c).pcbCarpincho (.espera (.semaforo sema))) := by
  obtain ⟨hlibre, hetapas⟩ := h.etapa_ne hetapa (by simp)
  have hsirve : etapa.sirviendo = true := by rw [Etapa.sirviendo, hatiende, Bool.true_or]
  have hio : etapa ≠ .bloqueandoPorIo := by
    rintro rfl
    cases hatiende
  apply h.conEtapa_self hlibre (Estado.atendiendo_sin_bloquear hatiende).1
  exact (h.vidas _).pedidoSemaforo (hetapas _) hcliente
    ((h.vidas _).atendible (hetapas _) hcliente).2.1 hsirve hio sema

theorem Ordenado.pedidoWait (h : s.Ordenado cfg cliente) (hetapa : (s.cpu c).etapa = .recibiendo)
    (hcliente : cliente (s.cpu c).pcbCarpincho = .libre)
    (hf : s.ficha (s.cpu c).pcbCarpincho = some f) (sema : Semaforo) :
    ((s.conFicha (s.cpu c).pcbCarpincho { f with status := .blocked }).conEtapa c
      .bloqueandoPorSemaforo).Ordenado cfg
        (Function.update cliente (s.cpu c).pcbCarpincho (.espera (.semaforo sema))) := by
  obtain ⟨hlibre, hetapas⟩ := h.etapa_ne hetapa (by simp)
  have hflag := ((h.vidas _).atendible (hetapas _) hcliente).2.1 f hf
  have hficha : ∀ g, some (Ficha.mk .blocked f.ioFinished) = some g → g.ioFinished = false := by
    intro g hg
    cases hg
    exact hflag
  apply h.conEtapa hlibre (by simp)
  · rfl
  · rfl
  · intro q hq y
    exact vida_conFicha_of_ne hq
  · rw [vida_conFicha_self]
    exact (h.vidas _).pedidoSemaforo (hetapas _) hcliente hficha rfl (by simp) sema

theorem Ordenado.finalizacion (h : s.Ordenado cfg cliente)
    (hetapa : (s.cpu c).etapa = .recibiendo)
    (hcliente : cliente (s.cpu c).pcbCarpincho = .libre)
    (hf : s.ficha (s.cpu c).pcbCarpincho = some f) :
    (({ s with salida := s.salida ++ [(s.cpu c).pcbCarpincho] }.conFicha
      (s.cpu c).pcbCarpincho { f with status := .finished }).conEtapa c .ciclo).Ordenado cfg
        (Function.update cliente (s.cpu c).pcbCarpincho .cerrado) := by
  obtain ⟨hlibre, hetapas⟩ := h.etapa_ne hetapa (by simp)
  apply h.conEtapa hlibre (by simp)
  · rfl
  · rfl
  · intro q hq y
    rw [vida_conFicha_of_ne hq]
    exact Vida.ext rfl rfl rfl rfl (count_append_of_ne _ hq) rfl rfl rfl rfl
  · rw [vida_conFicha_self]
    apply ((h.vidas _).finalizacion (hetapas _) hcliente hf).congr
    exact Vida.ext rfl rfl rfl rfl (count_append_self _ _) rfl rfl rfl rfl

theorem Ordenado.suelta (h : s.Ordenado cfg cliente) (hetapa : (s.cpu c).etapa = .ciclo)
    (hf : s.ficha (s.cpu c).pcbCarpincho = some f) (hexec : f.status ≠ .exec) :
    (s.conCpu c ⟨true, (s.cpu c).pcbCarpincho, .esperando⟩).Ordenado cfg cliente := by
  obtain ⟨hlibre, hetapas⟩ := h.etapa_ne hetapa (by simp)
  have hotras : ∀ c', c' ≠ c →
      (s.conCpu c ⟨true, (s.cpu c).pcbCarpincho, .esperando⟩).cpu c' = s.cpu c' :=
    fun c' hcc => cpu_conCpu_of_ne hcc
  have hself := cpu_conCpu_self s c ⟨true, (s.cpu c).pcbCarpincho, .esperando⟩
  have hno : ∀ q, ¬ (s.conCpu c ⟨true, (s.cpu c).pcbCarpincho, .esperando⟩).Ocupa q c := by
    intro q hq
    rw [Ocupa, hself] at hq
    cases hq.1
  apply @Ordenado.mudo cfg s _ cliente (s.cpu c).pcbCarpincho h
  · apply ((h.vidas _).suelta (hetapas _) hf hexec).congr
    refine Vida.ext rfl rfl rfl rfl rfl rfl ?_ rfl rfl
    funext c'
    by_cases hcc : c' = c
    · subst hcc
      simp only [vida, if_neg (hno _), Function.update_self]
    · have hocupa := @ocupa_conCpu_of_ne s (s.cpu c).pcbCarpincho c
        ⟨true, (s.cpu c).pcbCarpincho, .esperando⟩ c' hcc
      simp only [vida, hocupa, hotras c' hcc, Function.update_of_ne hcc]
  · intro q hq y
    refine Vida.ext rfl rfl rfl rfl rfl rfl ?_ rfl rfl
    apply @etapas_congr s _ y c q hotras
    · exact fun hq' => hq hq'.2.symm
    · exact hno q
  · exact h.cpus.update (fun hno => absurd rfl hno) fun hno => Bool.noConfusion hno
  · exact h.suspendidos

theorem Ordenado.despierta (h : s.Ordenado cfg cliente) (hd : s.Despierta s') :
    s'.Ordenado cfg cliente := by
  cases hd with
  | nadie => exact h
  | bloqueado j p f hj hf =>
    apply @Ordenado.mudo cfg s _ cliente p h
    · rw [vida_conFicha, if_pos rfl]
      have hready : (Ficha.mk .ready f.ioFinished).status ≠ .exec := by simp
      apply ((h.vidas p).despierta (count_pos_of_getElem hj) hf (Ficha.mk .ready f.ioFinished) rfl
        hready).congr
      exact Vida.ext rfl rfl (count_append_self _ _) (count_eraseIdx_self hj) rfl rfl rfl rfl rfl
    · intro q hq y
      rw [vida_conFicha, if_neg hq]
      exact Vida.ext rfl rfl (count_append_of_ne _ hq) (count_eraseIdx_of_ne hj hq) rfl rfl rfl rfl
        rfl
    · exact h.cpus
    · exact h.suspendidos
  | suspendido i hi =>
    rw [h.suspendidos] at hi
    cases hi

theorem Ordenado.liberacion (h : s.Ordenado cfg cliente) {ps : List ℕ}
    (hsalida : s.salida = p :: ps)
    (n : ℕ) : Ordenado cfg { s with
      salida := ps, ficha := Function.update s.ficha p none, lugares := n } cliente := by
  apply @Ordenado.mudo cfg s _ cliente p h
  · have hcuenta : s.salida.count p = ps.count p + 1 := by rw [hsalida, List.count_cons_self]
    have hpos : 0 < s.salida.count p := by omega
    apply ((h.vidas p).liberacion hpos).congr
    refine Vida.ext ?_ rfl rfl rfl ?_ rfl rfl rfl rfl
    · exact Function.update_self p none s.ficha
    · exact (Nat.sub_eq_of_eq_add hcuenta).symm
  · intro q hq y
    refine Vida.ext ?_ rfl rfl rfl ?_ rfl rfl rfl rfl
    · exact Function.update_of_ne hq none s.ficha
    · show ps.count q = s.salida.count q
      rw [hsalida, List.count_cons_of_ne hq.symm]
  · exact h.cpus
  · exact h.suspendidos

theorem Ordenado.reposicion (h : s.Ordenado cfg cliente) {elegidos resto : List ℕ}
    (hperm : s.bloqueados.Perm (resto ++ elegidos)) : Ordenado cfg { s with
      bloqueados := resto, listos := s.listos ++ elegidos } cliente where
  vidas q := by
    have hcuenta : s.bloqueados.count q = resto.count q + elegidos.count q := by
      rw [hperm.count_eq q, List.count_append]
    have hlistos : (s.listos ++ elegidos).count q = s.listos.count q + elegidos.count q :=
      List.count_append
    rcases Nat.eq_zero_or_pos (elegidos.count q) with hcero | hpos
    · apply (h.vidas q).congr
      rw [hcero, Nat.add_zero] at hcuenta hlistos
      exact Vida.ext rfl rfl hlistos hcuenta.symm rfl rfl rfl rfl rfl
    · have hbloqueados : 0 < (s.vida (cliente q) q).bloqueados := by
        show 0 < s.bloqueados.count q
        omega
      obtain ⟨huno, hlistosq, f, hf, hio, hexec⟩ := (h.vidas q).bloqueada hbloqueados
      have huno' : s.bloqueados.count q = 1 := huno
      apply ((h.vidas q).despierta hbloqueados hf f rfl hexec).congr
      refine Vida.ext hf rfl ?_ ?_ rfl rfl rfl rfl rfl
      · show (s.listos ++ elegidos).count q = s.listos.count q + 1
        omega
      · show resto.count q = s.bloqueados.count q - 1
        omega
  cpus := h.cpus
  suspendidos := h.suspendidos

theorem Ordenado.conProxima (h : s.Ordenado cfg cliente) {n : ℕ} (hn : s.proxima ≤ n) :
    Ordenado cfg { s with proxima := n } cliente where
  vidas q := by
    by_cases hq : q < n
    · apply (h.vidas q).nacimiento.congr
      exact Vida.ext rfl rfl rfl rfl rfl rfl rfl (decide_eq_true hq) rfl
    · apply (h.vidas q).congr
      have hmenor : q < n ↔ q < s.proxima := by omega
      exact Vida.ext rfl rfl rfl rfl rfl rfl rfl (decide_eq_decide.2 hmenor) rfl
  cpus := h.cpus
  suspendidos := h.suspendidos

end Ordenado

end Tablero

namespace Estado

/-- No CPU goes on after a WAIT that found no unit, no carpincho is suspended, the detector
frees none, `buscarCPULibre` does not lose one that waits for its IO, and the planner does not
choose one that a CPU has not let go of. -/
def respuestaSegura (cfg : Config) (k : Estado) : Turno → Bool
  | .hilo (.cpu c) => (k.cpusExec c).etapa ≠ .bloqueandoPorSemaforo
  | .hilo .medianoPlazo =>
    ¬ (k.processReady = [] ∧ k.processBlocked ≠ [] ∧ k.processNew ≠ [])
  | .hilo (.cortoPlazo i) =>
    k.cortoPlazo ≠ .esperandoPlanificar || (k.processReady[i]?).all (k.soltado cfg)
  | .sinCpu =>
    match k.cortoPlazo with
    | .asignando p => (k.tablero.ficha p).all fun f => !f.ioFinished
    | _ => true
  | .terminacion pid =>
    !(k.processBlocked.take (k.processBlocked.length - 1)).any (k.tienePid pid)
  | _ => true

/-- No CPU has a carpincho of which all have let go. -/
theorem no_ocupa_of_soltado {cfg : Config} {k : Estado} {p : ℕ}
    (hk : Tablero.Regular cfg k.cpusExec) (h : k.soltado cfg p = true) (c : ℕ) :
    ¬ k.tablero.Ocupa p c := by
  rintro ⟨hlibre, hpcb⟩
  obtain ⟨hetapa, hc⟩ := hk.atareada c hlibre
  have hsuelta := List.all_eq_true.1 h c (List.mem_range.2 hc)
  have hpcb' : (k.cpusExec c).pcbCarpincho = p := hpcb
  simp [hpcb', hetapa] at hsuelta

theorem entregar_de_puedeQuedar {d : Dialogo} {m : Turno} (hm : d.kernel.puedeQuedar m = true) :
    d.entregar m = .ok d := by
  cases m with
  | hilo e =>
    cases e with
    | recibe c pedido => cases hm
    | _ => rfl
  | _ => rfl

end Estado

namespace Dialogo

variable {cfg : Config} {d d₁ : Dialogo} {m : Turno} {ps : List ℕ} {s : Tablero} {c : ℕ}
  {pedido : Pedido}

theorem contestados_nil (cliente : ℕ → Cliente) : contestados cliente [] = cliente := by
  funext p
  simp [contestados]

theorem contestados_singleton (cliente : ℕ → Cliente) (p : ℕ) :
    contestados cliente [p] = Function.update cliente p (cliente p).contestado := by
  funext q
  rw [Function.update_apply]
  by_cases hq : q = p
  · subst hq
    simp [contestados]
  · simp [contestados, hq]

theorem entregar_recibe (hent : d.entregar (.hilo (.recibe c pedido)) = .ok d₁)
    (hpedido : pedido ≠ .memoria) :
    d.cliente (d.kernel.cpusExec c).pcbCarpincho = .libre ∧
      d₁.cliente =
        Function.update d.cliente (d.kernel.cpusExec c).pcbCarpincho (.espera pedido) := by
  rw [entregar, pedir] at hent
  rw [if_neg hpedido] at hent
  split at hent
  · next hlibre =>
    cases hent
    exact ⟨hlibre, rfl⟩
  · cases hent

theorem contestados_recibe (hcliente : d₁.cliente =
      Function.update d.cliente (d.kernel.cpusExec c).pcbCarpincho (.espera pedido)) :
    contestados d₁.cliente [(d.kernel.cpusExec c).pcbCarpincho] =
      Function.update d.cliente (d.kernel.cpusExec c).pcbCarpincho
        (Cliente.espera pedido).contestado := by
  rw [contestados_singleton, hcliente, Function.update_self, Function.update_idem]

open Tablero in
/-- A move keeps the order, and answers at most one carpincho, which waits for it. -/
theorem jugada_ordenado (h : Jugada cfg d.kernel m ps s)
    (hd : d.kernel.tablero.Ordenado cfg d.cliente) (hm : d.kernel.respuestaSegura cfg m = true)
    (hent : d.entregar m = .ok d₁) :
    s.Ordenado cfg (contestados d₁.cliente ps) ∧
      (ps = [] ∨ ∃ p, ps = [p] ∧ (d₁.cliente p).esperando = true) := by
  have hlisto : d.kernel.cortoPlazo = .esperandoListo →
      ∀ q, d.kernel.tablero.corto ≠ .asignando q := by
    intro hcorto q
    rw [show d.kernel.tablero.corto = _ from hcorto]
    simp
  have hplanificar : d.kernel.cortoPlazo = .esperandoPlanificar →
      ∀ q, d.kernel.tablero.corto ≠ .asignando q := by
    intro hcorto q
    rw [show d.kernel.tablero.corto = _ from hcorto]
    simp
  have hmudo : d.entregar m = .ok d → s.Ordenado cfg d.cliente → ps = [] →
      s.Ordenado cfg (contestados d₁.cliente ps) ∧
        (ps = [] ∨ ∃ p, ps = [p] ∧ (d₁.cliente p).esperando = true) := by
    intro hnada hs hps
    rw [hnada] at hent
    cases hent
    rw [hps, contestados_nil]
    exact ⟨hs, Or.inl rfl⟩
  cases h with
  | quieta hquieta => exact hmudo (Estado.entregar_de_puedeQuedar hquieta) hd rfl
  | llegada pid => exact hmudo rfl hd.llegada rfl
  | admision p n ps hlugares hnuevos => exact hmudo rfl (hd.admision hnuevos n _) rfl
  | espera i n hcorto _ =>
    exact hmudo rfl (hd.conCorto (hlisto hcorto) .esperandoPlanificar (by simp) n) rfl
  | eleccion i p f halg hcorto _ hp hf =>
    have hsoltado : d.kernel.soltado cfg p = true := by
      simpa [Estado.respuestaSegura, hcorto, hp] using hm
    have hsuelto := Estado.no_ocupa_of_soltado hd.cpus hsoltado
    exact hmudo rfl (hd.eleccion halg (hplanificar hcorto) hp hsuelto hf) rfl
  | salto i _ hcorto _ =>
    exact hmudo rfl (hd.conCorto (hplanificar hcorto) .esperandoListo (by simp) _) rfl
  | asignacion i p c _ hcorto hc hlibre => exact hmudo rfl (hd.asignacion hcorto hc hlibre) rfl
  | perdida p hcorto =>
    refine hmudo rfl (hd.perdida hcorto fun f hf => ?_) rfl
    rw [Estado.respuestaSegura, hcorto] at hm
    dsimp only at hm
    rw [hf] at hm
    simpa using hm
  | ratio i p f halg _ hp hf => exact hmudo rfl (hd.ratio halg hp hf) rfl
  | suspension p hready hblocked hnew _ =>
    exact absurd ⟨hready, hblocked, hnew⟩ (of_decide_eq_true hm)
  | finIo h => exact hmudo rfl (hd.despierta h) rfl
  | liberacion p ps f hsalida hf => exact hmudo rfl (hd.liberacion hsalida _) rfl
  | reposicion pid elegidos resto _ _ hperm => exact hmudo rfl (hd.reposicion hperm) rfl
  | terminacion pid elegidos resto hpid _ =>
    rw [Estado.respuestaSegura, hpid] at hm
    cases hm
  | comienzo c hetapa =>
    exact hmudo rfl (hd.avanza hetapa (Or.inl rfl) (Or.inl rfl)) rfl
  | escucha c f hetapa hf hexec hio =>
    refine hmudo rfl (hd.avanza hetapa (Or.inr (Or.inl rfl)) (Or.inr ⟨rfl, fun g hg => ?_⟩)) rfl
    cases hf.symm.trans hg
    exact hio
  | hallaIo c f hetapa hf hexec hio => exact hmudo rfl (hd.hallaIo hetapa hf hexec hio) rfl
  | limpiezaIo c f hetapa hf => exact hmudo rfl (hd.limpiezaIo hetapa f) rfl
  | respuestaIo c hetapa =>
    cases hent
    obtain ⟨hpaso, nombre, hcliente⟩ := hd.respuestaIo hetapa
    replace hcliente : d.cliente (d.kernel.cpusExec c).pcbCarpincho = .espera (.io nombre) :=
      hcliente
    rw [contestados_singleton, hcliente]
    exact ⟨hpaso, Or.inr ⟨_, rfl, by rw [hcliente]; rfl⟩⟩
  | suelta c f hetapa hf hexec => exact hmudo rfl (hd.suelta hetapa hf hexec) rfl
  | bloqueoIo c f hetapa hf => exact hmudo rfl (hd.bloqueoIo hetapa hf) rfl
  | bloqueoWait c hetapa => exact absurd hetapa (of_decide_eq_true hm)
  | @fin c n s hetapa hn h =>
    cases hent
    have hcpu : s.cpu c = d.kernel.cpusExec c := congrFun h.cpu_eq c
    obtain ⟨hpaso, sema, hcliente⟩ :=
      ((hd.despierta h).conProxima (h.proxima_eq.le.trans hn)).fin (hcpu ▸ hetapa)
    replace hcliente : d.cliente (s.cpu c).pcbCarpincho = .espera (.semaforo sema) := hcliente
    rw [← hcpu, contestados_singleton, hcliente]
    exact ⟨hpaso, Or.inr ⟨_, rfl, by rw [hcliente]; rfl⟩⟩
  | memoria c hetapa =>
    refine hmudo ?_ (hd.avanza hetapa (Or.inr (Or.inr rfl)) (Or.inl rfl)) rfl
    rw [entregar, pedir] at hent ⊢
    split at hent
    · next hlibre => rw [if_pos hlibre, if_pos rfl]
    · cases hent
  | pedidoIo c nombre f hetapa hf =>
    obtain ⟨hlibre, hcliente⟩ := entregar_recibe hent (by simp)
    rw [contestados_nil, hcliente]
    exact ⟨hd.pedidoIo hetapa hlibre hf nombre, Or.inl rfl⟩
  | pedidoWait c sema f hetapa hf _ =>
    obtain ⟨hlibre, hcliente⟩ := entregar_recibe hent (by simp)
    rw [contestados_nil, hcliente]
    exact ⟨hd.pedidoWait hetapa hlibre hf sema, Or.inl rfl⟩
  | pedidoSemaforo c sema etapa hetapa hatiende =>
    obtain ⟨hlibre, hcliente⟩ := entregar_recibe hent (by simp)
    rw [contestados_nil, hcliente]
    exact ⟨hd.pedidoSemaforo hetapa hlibre hatiende sema, Or.inl rfl⟩
  | respuestaSemaforo c sema hetapa =>
    obtain ⟨hlibre, hcliente⟩ := entregar_recibe hent (by simp)
    have hpaso := hd.avanza hetapa (Or.inr (Or.inr rfl)) (Or.inl rfl)
    rw [← Function.update_eq_self (d.kernel.cpusExec c).pcbCarpincho d.cliente, hlibre] at hpaso
    rw [contestados_recibe hcliente, hcliente]
    refine ⟨hpaso, Or.inr ⟨_, rfl, ?_⟩⟩
    rw [Function.update_self]
    rfl
  | finalizacion c f hetapa hf =>
    obtain ⟨hlibre, hcliente⟩ := entregar_recibe hent (by simp)
    rw [contestados_recibe hcliente, hcliente]
    refine ⟨hd.finalizacion hetapa hlibre hf, Or.inr ⟨_, rfl, ?_⟩⟩
    rw [Function.update_self]
    rfl

theorem paso_eq_ok {o : List Suceso} {d' : Dialogo} (h : d.paso cfg m = .ok (o, d')) :
    ∃ d₁ k', d.entregar m = .ok d₁ ∧ Estado.pasoTurno cfg m d.kernel = .ok (o, k') ∧
      d' = d₁.contestar o k' := by
  obtain ⟨d₁, hent, h⟩ := bind_eq_ok.1 h
  obtain ⟨⟨o, k'⟩, hpaso, h⟩ := bind_eq_ok.1 h
  cases h
  refine ⟨d₁, k', hent, ?_, rfl⟩
  have hkernel : d₁.kernel = d.kernel := by
    cases m with
    | hilo e =>
      cases e with
      | recibe c pedido =>
        rw [entregar, pedir] at hent
        split at hent
        · split at hent <;> cases hent <;> rfl
        · cases hent
      | _ =>
        cases hent
        rfl
    | _ =>
      cases hent
      rfl
  rwa [hkernel] at hpaso

theorem contestado_esperando (cliente : Cliente) : cliente.contestado.esperando = false := by
  cases cliente with
  | espera pedido => cases pedido <;> rfl
  | _ => rfl

/-- Every request has been answered, except the last one if it is waited for. -/
def Cuadra (d : Dialogo) : Prop :=
  ∀ p, d.pedidos p = d.respuestas p + if (d.cliente p).esperando then 1 else 0

theorem entregar_cuadra (hd : d.Cuadra) (hent : d.entregar m = .ok d₁) : d₁.Cuadra := by
  have hpide : ∀ c pedido, d.pedir c pedido = .ok d₁ → d₁.Cuadra := by
    intro c pedido h
    rw [pedir] at h
    split at h
    · next hlibre =>
      split at h
      · cases h
        exact hd
      · cases h
        intro p
        have hp := hd p
        by_cases hpc : p = c
        · subst hpc
          rw [hlibre] at hp
          simp only [Function.update_self]
          exact congrArg (· + 1) hp
        · simp only [Function.update_of_ne hpc]
          exact hp
    · cases h
  cases m with
  | hilo e =>
    cases e with
    | recibe c pedido => exact hpide _ _ hent
    | _ =>
      cases hent
      exact hd
  | _ =>
    cases hent
    exact hd

theorem contestar_cuadra {o : List Suceso} (hd : d.Cuadra)
    (ho : respondidos o = [] ∨ ∃ p, respondidos o = [p] ∧ (d.cliente p).esperando = true)
    (k : Estado) : (d.contestar o k).Cuadra := by
  intro p
  have hp := hd p
  show d.pedidos p = d.respuestas p + (respondidos o).count p +
    if (contestados d.cliente (respondidos o) p).esperando then 1 else 0
  rcases ho with hnada | ⟨q, hq, hespera⟩
  · rw [hnada, contestados_nil, List.count_nil, Nat.add_zero]
    exact hp
  · rw [hq, contestados_singleton]
    by_cases hpq : p = q
    · subst hpq
      rw [if_pos hespera] at hp
      rw [Function.update_self, contestado_esperando, List.count_singleton_self, hp]
      rfl
    · rw [Function.update_of_ne hpq, List.count_eq_zero.2 fun h => hpq (List.mem_singleton.1 h),
        Nat.add_zero]
      exact hp

/-- Every carpincho leads an ordered life, and its answers are counted. -/
structure Disciplina (cfg : Config) (d : Dialogo) : Prop where
  ordenado : d.kernel.tablero.Ordenado cfg d.cliente
  cuadra : d.Cuadra

theorem paso_disciplina {o : List Suceso} {d' : Dialogo} (hd : d.Disciplina cfg)
    (hm : d.kernel.respuestaSegura cfg m = true) (h : d.paso cfg m = .ok (o, d')) :
    d'.Disciplina cfg := by
  obtain ⟨d₁, k', hent, hpaso, rfl⟩ := paso_eq_ok h
  obtain ⟨hordenado, ho⟩ := jugada_ordenado (Estado.pasoTurno_jugada hpaso) hd.ordenado hm hent
  exact ⟨hordenado, contestar_cuadra (entregar_cuadra hd.cuadra hent) ho k'⟩

theorem inicial_disciplina (cfg : Config) : (inicial cfg).Disciplina cfg where
  ordenado := by
    refine ⟨fun p => ?_, ⟨fun c hc => absurd rfl hc, fun c hc => Bool.noConfusion hc⟩, rfl⟩
    have hno : ∀ c, ¬ (inicial cfg).kernel.tablero.Ocupa p c := fun c h => Bool.noConfusion h.1
    have hetapas : ∀ c, ((inicial cfg).kernel.tablero.vida .libre p).etapas c = none := by
      intro c
      simp only [Tablero.vida, if_neg (hno c)]
    constructor
    · exact fun _ => ⟨rfl, hetapas, rfl, rfl, rfl, rfl⟩
    · exact fun h => absurd h (lt_irrefl _)
    · exact fun c c' e e' hc => nomatch (hetapas c).symm.trans hc
    · exact fun _ => hetapas
    · exact fun c e hc => nomatch (hetapas c).symm.trans hc
    · exact fun c hc => nomatch (hetapas c).symm.trans hc
    · exact fun c hc => nomatch (hetapas c).symm.trans hc
    · exact fun c hc => nomatch (hetapas c).symm.trans hc
    · exact fun f hf => nomatch hf
    · exact fun h => absurd h (lt_irrefl _)
    · exact fun h => absurd h (lt_irrefl _)
    · exact fun h => absurd h (lt_irrefl _)
    · exact fun pedido h => nomatch h
    · exact fun _ => ⟨rfl, hetapas, fun f hf => nomatch hf⟩
  cuadra := fun _ => rfl

/-- The carpincho waits for a request that blocks it. -/
def Bloqueante (d : Dialogo) (p : ℕ) : Prop :=
  (∃ nombre, d.cliente p = .espera (.io nombre)) ∨
    ∃ c, d.kernel.tablero.Ocupa p c ∧ (d.kernel.cpusExec c).etapa = .bloqueandoPorSemaforo

/-- No answer of the step goes to a carpincho that its request has left in BLOCKED or in
SUSPENDED_BLOCKED. -/
def DesbloqueaAntes (d : Dialogo) (o : List Suceso) (k : Estado) : Prop :=
  ∀ p ∈ respondidos o, d.Bloqueante p → p ∉ k.processBlocked ∧ p ∉ k.processSuspendedBlocked

/-- A carpincho that waits for no IO is blocked only where its CPU is about to put it in
BLOCKED. -/
theorem no_bloqueante (hd : d.Disciplina cfg)
    (hservida : ¬ ∃ nombre, d.cliente (d.kernel.cpusExec c).pcbCarpincho = .espera (.io nombre))
    {e : Etapa} (hetapa : (d.kernel.cpusExec c).etapa = e) (he : e ≠ .esperando)
    (hno : e ≠ .bloqueandoPorSemaforo) :
    ¬ d.Bloqueante (d.kernel.cpusExec c).pcbCarpincho := by
  have hvida := hd.ordenado.vidas (d.kernel.cpusExec c).pcbCarpincho
  obtain ⟨-, hetapas⟩ := hd.ordenado.etapa_ne hetapa he
  rintro (hio | ⟨c', hocupa, hc'⟩)
  · exact hservida hio
  · have hetapas' : (d.kernel.tablero.vida (d.cliente (d.kernel.cpusExec c).pcbCarpincho)
        (d.kernel.cpusExec c).pcbCarpincho).etapas c' = some .bloqueandoPorSemaforo :=
      (if_pos hocupa).trans (congrArg some hc')
    obtain rfl := hvida.sola c c' _ _ (hetapas _) hetapas'
    exact hno (Option.some.inj ((hetapas _).symm.trans hetapas'))

theorem jugada_desbloquea (h : Jugada cfg d.kernel m ps s) (hd : d.Disciplina cfg)
    (hent : d.entregar m = .ok d₁) :
    (∀ p ∈ ps, d.Bloqueante p → p ∉ s.bloqueados ∧ p ∉ s.suspendidos) ↔
      ∀ c, m = .hilo (.cpu c) → (d.kernel.cpusExec c).etapa ≠ .bloqueandoPorSemaforo := by
  have hnada : ps = [] →
      (∀ c, m = .hilo (.cpu c) → (d.kernel.cpusExec c).etapa ≠ .bloqueandoPorSemaforo) →
      ((∀ p ∈ ps, d.Bloqueante p → p ∉ s.bloqueados ∧ p ∉ s.suspendidos) ↔
        ∀ c, m = .hilo (.cpu c) → (d.kernel.cpusExec c).etapa ≠ .bloqueandoPorSemaforo) := by
    rintro rfl hotra
    exact iff_of_true (fun p hp => nomatch hp) hotra
  have hcpu : ∀ {c : ℕ} {e : Etapa}, (d.kernel.cpusExec c).etapa = e → e ≠ .bloqueandoPorSemaforo →
      ∀ c', Turno.hilo (.cpu c) = .hilo (.cpu c') →
        (d.kernel.cpusExec c').etapa ≠ .bloqueandoPorSemaforo := by
    intro c e hetapa he c' hc'
    cases hc'
    rwa [hetapa]
  have hpide : ∀ {c : ℕ} {pedido : Pedido}, m = .hilo (.recibe c pedido) → pedido ≠ .memoria →
      (d.kernel.cpusExec c).etapa = .recibiendo → ps = [(d.kernel.cpusExec c).pcbCarpincho] →
      ∀ p ∈ ps, d.Bloqueante p → p ∉ s.bloqueados ∧ p ∉ s.suspendidos := by
    rintro c pedido rfl hpedido hetapa rfl p hp hbloqueante
    obtain ⟨hlibre, -⟩ := entregar_recibe hent hpedido
    cases List.mem_singleton.1 hp
    refine absurd hbloqueante (no_bloqueante hd ?_ hetapa (by simp) (by simp))
    rintro ⟨nombre, hno⟩
    rw [hlibre] at hno
    cases hno
  cases h with
  | quieta hquieta =>
    refine hnada rfl ?_
    rintro c rfl
    cases hquieta
  | comienzo c hetapa => exact hnada rfl (hcpu hetapa (by simp))
  | escucha c f hetapa _ _ _ => exact hnada rfl (hcpu hetapa (by simp))
  | hallaIo c f hetapa _ _ _ => exact hnada rfl (hcpu hetapa (by simp))
  | limpiezaIo c f hetapa _ => exact hnada rfl (hcpu hetapa (by simp))
  | respuestaIo c hetapa =>
    refine iff_of_true (fun p hp _ => ?_) (hcpu hetapa (by simp))
    cases List.mem_singleton.1 hp
    have hetapa' : (d.kernel.tablero.cpu c).etapa = .respondiendoIo := hetapa
    obtain ⟨-, hetapas⟩ := hd.ordenado.etapa_ne hetapa' (by simp)
    have hvida := hd.ordenado.vidas (d.kernel.tablero.cpu c).pcbCarpincho
    obtain ⟨-, hbloqueados, -⟩ := hvida.responde c (hetapas _)
    have hsuspendidos : d.kernel.tablero.suspendidos = [] := hd.ordenado.suspendidos
    refine ⟨List.count_eq_zero.1 hbloqueados, fun hno => ?_⟩
    have hno' : (d.kernel.cpusExec c).pcbCarpincho ∈ d.kernel.tablero.suspendidos := hno
    rw [hsuspendidos] at hno'
    cases hno'
  | suelta c f hetapa _ _ => exact hnada rfl (hcpu hetapa (by simp))
  | bloqueoIo c f hetapa _ => exact hnada rfl (hcpu hetapa (by simp))
  | bloqueoWait c hetapa =>
    refine iff_of_false (fun hno => ?_) (fun hno => hno c rfl hetapa)
    have hocupa := hd.ordenado.cpus.ocupada c
    have hlibre : (d.kernel.tablero.cpu c).libre = false := by
      apply hocupa
      rw [show (d.kernel.tablero.cpu c).etapa = _ from hetapa]
      simp
    refine (hno _ (List.mem_singleton.2 rfl) (Or.inr ⟨c, ⟨hlibre, rfl⟩, hetapa⟩)).1 ?_
    exact List.mem_append_right _ (List.mem_singleton.2 rfl)
  | @fin c n s hetapa hn h =>
    have hno : (d.kernel.cpusExec c).etapa ≠ .bloqueandoPorSemaforo := by
      intro hno
      rw [hno] at hetapa
      cases hetapa
    refine iff_of_true (fun p hp hbloqueante => ?_) (hcpu rfl hno)
    cases List.mem_singleton.1 hp
    refine absurd hbloqueante
      (no_bloqueante hd ?_ rfl (Estado.atendiendo_sin_bloquear hetapa).1 hno)
    obtain ⟨-, sema, hespera⟩ := hd.ordenado.fin hetapa
    have hespera' : d.cliente (d.kernel.cpusExec c).pcbCarpincho = .espera (.semaforo sema) :=
      hespera
    rintro ⟨nombre, hio⟩
    rw [hespera'] at hio
    cases hio
  | respuestaSemaforo c sema hetapa =>
    exact iff_of_true (hpide rfl (by simp) hetapa rfl) (by simp)
  | finalizacion c f hetapa _ => exact iff_of_true (hpide rfl (by simp) hetapa rfl) (by simp)
  | _ => exact hnada rfl (by simp)

/-- In every run in which no CPU goes on after a WAIT that found no unit, no carpincho is
suspended, freed by the detector or chosen while a CPU still has it, and none that waits for its
IO is left without a CPU, each request is answered once, in turn, and until then it is being
served; and the answer to a request that blocks the carpincho goes out after it has left BLOCKED
at exactly the steps that are not the end of such a WAIT. -/
theorem disciplina_de_respuestas (cfg : Config) {ms : List Turno} {d : Dialogo}
    (h : Reaches (paso cfg) (fun d m => d.kernel.respuestaSegura cfg m = true) (inicial cfg) ms d) :
    d.Cuadra ∧
    (∀ p pedido, d.cliente p = .espera pedido →
      (d.kernel.tablero.vida (d.cliente p) p).EnServicio pedido) ∧
    ∀ m o d', d.paso cfg m = .ok (o, d') → (d.DesbloqueaAntes o d'.kernel ↔
      ∀ c, m = .hilo (.cpu c) → (d.kernel.cpusExec c).etapa ≠ .bloqueandoPorSemaforo) := by
  have hd : d.Disciplina cfg := by
    have hpasos (d : Dialogo) (m : Turno) (o : List Suceso) (d' : Dialogo) (hd : d.Disciplina cfg)
        (hm : d.kernel.respuestaSegura cfg m = true) (hpaso : d.paso cfg m = .ok (o, d')) :
        d'.Disciplina cfg := paso_disciplina hd hm hpaso
    exact h.invariant hpasos (inicial_disciplina cfg)
  refine ⟨hd.cuadra, fun p pedido hp => (hd.ordenado.vidas p).espera pedido hp, ?_⟩
  intro m o d' hpaso
  obtain ⟨d₁, k', hent, hturno, rfl⟩ := paso_eq_ok hpaso
  exact jugada_desbloquea (Estado.pasoTurno_jugada hturno) hd hent

section Corridas

open Estado

def sinUnidades : List Turno :=
  hilos (pedirSemaforo 0 ++ [.cpu 0, .cpu 0, .recibe 0 (.semaforo ⟨.wait, "S", 0⟩)])

/-- The answer to a WAIT without units is sent to a carpincho in BLOCKED. -/
theorem respuesta_en_blocked :
    ¬ ∀ (cfg : Config) (ms : List Turno) (d : Dialogo),
      Reaches (paso cfg) (fun _ _ => True) (inicial cfg) ms d →
      d.Cuadra ∧ (∀ p pedido, d.cliente p = .espera pedido →
        (d.kernel.tablero.vida (d.cliente p) p).EnServicio pedido) ∧
      ∀ m o d', d.paso cfg m = .ok (o, d') → d.DesbloqueaAntes o d'.kernel := by
  intro h
  have hcorrida : (guardedRun (paso configUnaCpu) (fun _ _ => true) sinUnidades
      (inicial configUnaCpu)).any (fun d => (d.kernel.cpusExec 0).libre = false ∧
        (d.kernel.cpusExec 0).pcbCarpincho = 0 ∧
        (d.kernel.cpusExec 0).etapa = .bloqueandoPorSemaforo ∧
        returns (d.paso configUnaCpu (.hilo (.cpu 0))) fun r =>
          0 ∈ respondidos r.1 ∧ 0 ∈ r.2.kernel.processBlocked) = true := by
    decide +kernel
  obtain ⟨d, hd, hfin⟩ := (Option.any_eq_true _ _).1 hcorrida
  obtain ⟨hlibre, hpcb, hetapa, hpaso⟩ := of_decide_eq_true hfin
  obtain ⟨⟨o, d'⟩, hpaso, hblocked⟩ := exists_of_returns hpaso
  obtain ⟨hrespuesta, hblocked⟩ := of_decide_eq_true hblocked
  obtain ⟨-, -, hantes⟩ := h configUnaCpu _ d ((reaches_of_guardedRun hd).mono fun _ _ _ => trivial)
  exact (hantes _ o d' hpaso 0 hrespuesta (Or.inr ⟨0, ⟨hlibre, hpcb⟩, hetapa⟩)).1 hblocked

/-- A carpincho comes back from its IO, and a CPU is about to answer it. -/
theorem disciplina_de_respuestas_io :
    ∃ d, Reaches (paso configUnLugar) (fun d m => d.kernel.respuestaSegura configUnLugar m = true)
      (inicial configUnLugar) (hilos (bloqueado ++ [.planificadorIo, .planificadorIo] ++
        List.replicate 3 (.cortoPlazo 0) ++ [.cpu 0])) d ∧
      d.cliente 0 = .espera (.io "disco") ∧ d.pedidos 0 = d.respuestas 0 + 1 := by
  have hcorrida : (guardedRun (paso configUnLugar)
      (fun d m => d.kernel.respuestaSegura configUnLugar m)
      (hilos (bloqueado ++ [.planificadorIo, .planificadorIo] ++
        List.replicate 3 (.cortoPlazo 0) ++ [.cpu 0])) (inicial configUnLugar)).any
      (fun d => d.cliente 0 = .espera (.io "disco")) = true := by
    decide +kernel
  obtain ⟨d, hd, hfin⟩ := (Option.any_eq_true _ _).1 hcorrida
  have hcliente := of_decide_eq_true hfin
  have hreaches := reaches_of_guardedRun hd
  have hcuenta := (disciplina_de_respuestas configUnLugar hreaches).1 0
  rw [hcliente] at hcuenta
  exact ⟨d, hreaches, hcliente, hcuenta⟩

end Corridas

end Dialogo

end Carpinchos.Kernel
