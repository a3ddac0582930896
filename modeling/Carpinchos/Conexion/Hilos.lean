import Carpinchos.Conexion.Mensajes

/-!
# Many threads on one connection

The CPUs and the thread that ends processes share the connection to the memory module
without a lock. Requests are answered in the order in which they arrive, and the reply
bytes go to whichever thread reads next. Here each request has a number and each reply
byte carries the number of the request it answers; the program sees neither.
-/

namespace Carpinchos.Conexion

open Outcome Runs Wire

abbrev Marcado := ℕ × UInt8

/-- Where the thread of a CPU stands in `serializar_instancia`. -/
inductive Etapa
  | libre
  /-- reading the reply to request `r`: `falta` bytes are missing in the present read -/
  | recibiendo (r : ℕ) (fase : Fase) (falta : ℕ) (leido : List Marcado)
  deriving DecidableEq, Repr

/-- The request whose reply a CPU waits for. -/
def Etapa.numero : Etapa → Option ℕ
  | .libre => none
  | .recibiendo r _ _ _ => some r

structure Canal where
  /-- the number of the next request -/
  proximo : ℕ
  /-- the requests that have not been answered, in the order of their arrival -/
  pedidos : List (ℕ × Pedido)
  /-- the reply bytes that have not been read -/
  respuestas : List Marcado
  cpus : ℕ → Etapa

def Canal.inicial : Canal := ⟨0, [], [], fun _ => .libre⟩

inductive Evento
  /-- a CPU sends the instance of its carpincho -/
  | enviar (c : ℕ) (i : Instancia)
  /-- `finalizacionCarpincho` -/
  | finalizar
  /-- the memory module answers the first request -/
  | responder (d : Desenlace)
  /-- the read of a CPU takes so many bytes -/
  | recibir (c n : ℕ)
  /-- the read of a CPU is complete -/
  | completar (c : ℕ)

inductive Suceso
  | enviado (c r : ℕ) (i : Instancia)
  | producido (r : ℕ) (bytes : List UInt8)
  /-- a CPU forwards these bytes to its carpincho as the reply to its request -/
  | reenviado (c r : ℕ) (bytes : List Marcado)
  deriving DecidableEq, Repr

inductive Alto
  | noHabilitado
  | falla (f : Falla)

namespace Canal

def conEtapa (s : Canal) (c : ℕ) (etapa : Etapa) : Canal :=
  { s with cpus := Function.update s.cpus c etapa }

/-- The reply to request `r`, byte by byte. -/
def marcar (r : ℕ) (bytes : List UInt8) : List Marcado := bytes.map fun b => (r, b)

/-- `serializar_instancia` up to its first read, by a CPU that is not waiting. -/
def enviar (s : Canal) (c : ℕ) (i : Instancia) : Except Alto (List Suceso × Canal) :=
  match s.cpus c with
  | .libre =>
    .ok ([.enviado c s.proximo i],
      { s with
        proximo := s.proximo + 1
        pedidos := s.pedidos ++ [(s.proximo, Pedido.instancia i)] }.conEtapa c
          (.recibiendo s.proximo i.tipoOp.fase 4 []))
  | _ => .error .noHabilitado

def finalizar (s : Canal) : List Suceso × Canal :=
  ([], { s with
    proximo := s.proximo + 1
    pedidos := s.pedidos ++ [(s.proximo, Pedido.processEnded)] })

/-- The memory module answers the requests in the order of their arrival. -/
def responder (s : Canal) (d : Desenlace) : Except Alto (List Suceso × Canal) :=
  match s.pedidos with
  | [] => .error .noHabilitado
  | (r, pedido) :: pedidos =>
    .ok ([.producido r (serverProcesarMensaje pedido d)],
      { s with
        pedidos := pedidos
        respuestas := s.respuestas ++ marcar r (serverProcesarMensaje pedido d) })

/-- A `recv` takes some of the bytes that have arrived, at most those it misses. -/
def recibir (s : Canal) (c n : ℕ) : Except Alto (List Suceso × Canal) :=
  match s.cpus c with
  | .recibiendo r fase falta leido =>
    if 0 < n ∧ n ≤ falta ∧ n ≤ s.respuestas.length then
      .ok ([], { s with respuestas := s.respuestas.drop n }.conEtapa c
        (.recibiendo r fase (falta - n) (leido ++ s.respuestas.take n)))
    else .error .noHabilitado
  | .libre => .error .noHabilitado

/-- After a complete read another one follows, or the reply is forwarded. -/
def completar (s : Canal) (c : ℕ) : Except Alto (List Suceso × Canal) :=
  match s.cpus c with
  | .recibiendo r fase 0 leido =>
    match siguiente fase (leido.map Prod.snd) with
    | .error f => .error (.falla f)
    | .ok none => .ok ([.reenviado c r leido], s.conEtapa c .libre)
    | .ok (some n) => .ok ([], s.conEtapa c (.recibiendo r .valor n leido))
  | _ => .error .noHabilitado

def paso : Evento → Canal → Except Alto (List Suceso × Canal)
  | .enviar c i, s => s.enviar c i
  | .finalizar, s => .ok s.finalizar
  | .responder d, s => s.responder d
  | .recibir c n, s => s.recibir c n
  | .completar c, s => s.completar c

def ocioso (s : Canal) : Bool := s.pedidos.isEmpty && s.respuestas.isEmpty

/-- A request is sent only on an idle connection. -/
def deAUno (s : Canal) : Evento → Bool
  | .enviar .. | .finalizar => s.ocioso
  | _ => true

end Canal

/-- Every forwarded reply is the one that memory produced for the request that the same
CPU sent. -/
def Emparejados (historia : List Suceso) : Prop :=
  ∀ c r leido, .reenviado c r leido ∈ historia →
    ∃ i d, .enviado c r i ∈ historia ∧
      .producido r (serverProcesarMensaje (.instancia i) d) ∈ historia ∧
      leido = Canal.marcar r (serverProcesarMensaje (.instancia i) d)

namespace Canal

inductive Avance (i : Instancia) (d : Desenlace) : Fase → ℕ → ℕ → Prop
  | unica {falta leidos : ℕ} (h : i.tipoOp ≠ .memread) (hn : leidos + falta = 4) :
      Avance i d .unica falta leidos
  | tamanio {falta leidos : ℕ} (h : i.tipoOp = .memread) (hn : leidos + falta = 4) :
      Avance i d .tamanio falta leidos
  | valor {falta leidos : ℕ} (h : i.tipoOp = .memread) (hd : d.exito = true)
      (hn : leidos + falta = 4 + i.size) : Avance i d .valor falta leidos

structure Pendiente (s : Canal) (r : ℕ) (i : Instancia) (fase : Fase) (falta : ℕ)
    (leido : List Marcado) : Prop where
  pedidos : s.pedidos = [(r, .instancia i)]
  respuestas : s.respuestas = []
  fase : fase = i.tipoOp.fase
  falta : falta = 4
  leido : leido = []

structure Contestado (s : Canal) (historia : List Suceso) (r : ℕ) (i : Instancia)
    (d : Desenlace) (fase : Fase) (falta : ℕ) (leido : List Marcado) : Prop where
  producido : .producido r (serverProcesarMensaje (.instancia i) d) ∈ historia
  avance : Avance i d fase falta leido.length
  resto : ∃ resto, marcar r (serverProcesarMensaje (.instancia i) d) = leido ++ resto ∧
    (resto = [] ∨ s.pedidos = [] ∧ s.respuestas = resto)

/-- Every CPU that waits for a reply waits for its own. -/
structure Ordenado (s : Canal) (historia : List Suceso) : Prop where
  lectura : ∀ c r fase falta leido, s.cpus c = .recibiendo r fase falta leido →
    ∃ i, .enviado c r i ∈ historia ∧ (Pendiente s r i fase falta leido ∨
      ∃ d, Contestado s historia r i d fase falta leido)
  numero : ∀ c r, (s.cpus c).numero = some r → r < s.proximo
  distintos : ∀ c c' r, (s.cpus c).numero = some r → (s.cpus c').numero = some r → c = c'
  turno : s.pedidos = [] ∨ ∃ x, s.pedidos = [x] ∧ s.respuestas = []
  emparejados : Emparejados historia

section Respuesta

variable {s s' : Canal} {historia o : List Suceso} {r c n falta : ℕ} {i : Instancia}
  {d : Desenlace} {fase : Fase} {leido resto : List Marcado}

@[simp] theorem length_marcar (r : ℕ) (bytes : List UInt8) :
    (marcar r bytes).length = bytes.length := List.length_map _

theorem map_marcar (r : ℕ) (bytes : List UInt8) : (marcar r bytes).map Prod.snd = bytes := by
  simp [marcar, Function.comp_def]

theorem fst_of_mem_marcar {bytes : List UInt8} {b : Marcado} (h : b ∈ marcar r bytes) :
    b.1 = r := by
  obtain ⟨b', -, rfl⟩ := List.mem_map.1 h
  rfl

/-- A reply is at least as long as the bytes of its first read. -/
theorem four_le_length (i : Instancia) (d : Desenlace) :
    4 ≤ (serverProcesarMensaje (.instancia i) d).length := by
  by_cases hop : i.tipoOp = .memread
  · cases hd : d.exito with
    | true => simp [serverProcesarMensaje_memread hop hd]
    | false => simp [serverProcesarMensaje_memreadFault hop hd, ErrCode.length_bytes]
  · rw [length_serverProcesarMensaje hop]

theorem avance_inicial (i : Instancia) (d : Desenlace) : Avance i d i.tipoOp.fase 4 0 := by
  by_cases hop : i.tipoOp = .memread
  · rw [hop]
    exact .tamanio hop rfl
  · rw [fase_unica hop]
    exact .unica hop rfl

theorem Avance.tomar {leidos : ℕ} (h : Avance i d fase falta leidos) (hn : n ≤ falta) :
    Avance i d fase (falta - n) (leidos + n) := by
  cases h with
  | unica h hleidos => exact .unica h (by omega)
  | tamanio h hleidos => exact .tamanio h (by omega)
  | valor h hd hleidos => exact .valor h hd (by omega)

theorem Avance.completo
    (h : Avance i d fase falta (serverProcesarMensaje (.instancia i) d).length) : falta = 0 := by
  have hcuatro := four_le_length i d
  cases h with
  | unica h hleidos => omega
  | tamanio h hleidos => omega
  | valor h hd hleidos =>
    rw [serverProcesarMensaje_memread h hd] at hleidos
    simp only [List.length_append, length_encodeInt32, List.length_map, List.length_range]
      at hleidos
    omega

/-- A complete read that is not that of a length has the whole reply. -/
theorem Avance.largo {leidos : ℕ} (h : Avance i d fase 0 leidos) (hfase : fase ≠ .tamanio) :
    leidos = (serverProcesarMensaje (.instancia i) d).length := by
  cases h with
  | unica h hleidos => rw [length_serverProcesarMensaje h, ← hleidos, Nat.add_zero]
  | tamanio => exact absurd rfl hfase
  | valor h hd hleidos =>
    rw [serverProcesarMensaje_memread h hd]
    simpa using hleidos

/-- A complete read of a length gives the length of the rest of the reply. -/
theorem Contestado.siguiente_tamanio {m : Option ℕ}
    (h : Contestado s historia r i d .tamanio 0 leido)
    (hm : siguiente .tamanio (leido.map Prod.snd) = .ok m) :
    m = some i.size ∧ Avance i d .valor i.size leido.length := by
  obtain ⟨resto, hresto, -⟩ := h.resto
  have hbytes : serverProcesarMensaje (.instancia i) d =
      leido.map Prod.snd ++ resto.map Prod.snd := by
    rw [← List.map_append, ← hresto, map_marcar]
  cases h.avance with
  | tamanio hop hleidos =>
    have hlargo : (leido.map Prod.snd).length = 4 := by simpa using hleidos
    cases hd : d.exito with
    | true =>
      rw [serverProcesarMensaje_memread hop hd] at hbytes
      have hleido := (List.append_inj hbytes (by simp [hlargo])).1
      rw [← hleido, siguiente_size] at hm
      cases hm
      exact ⟨rfl, .valor hop hd (by omega)⟩
    | false =>
      rw [serverProcesarMensaje_memreadFault hop hd] at hbytes
      have hleido : ErrCode.mateReadFault.bytes = leido.map Prod.snd := by
        rw [← List.append_nil ErrCode.mateReadFault.bytes] at hbytes
        exact (List.append_inj hbytes (by rw [hlargo, ErrCode.length_bytes])).1
      rw [← hleido, siguiente_fault] at hm
      cases hm

theorem siguiente_none (h : siguiente fase (leido.map Prod.snd) = .ok none) :
    fase ≠ .tamanio := by
  rintro rfl
  simp only [siguiente] at h
  split at h <;> cases h

end Respuesta

section Pasos

variable {s s' : Canal} {historia o : List Suceso} {r c n falta : ℕ} {i : Instancia}
  {d : Desenlace} {fase : Fase} {leido : List Marcado} {e : Evento}

theorem emparejados_append (h : Emparejados historia)
    (ho : ∀ c r leido, Suceso.reenviado c r leido ∉ o) : Emparejados (historia ++ o) := by
  intro c r leido hmem
  rcases List.mem_append.1 hmem with hmem | hmem
  · obtain ⟨i, d, hi, hd, hleido⟩ := h c r leido hmem
    exact ⟨i, d, List.mem_append_left _ hi, List.mem_append_left _ hd, hleido⟩
  · exact absurd hmem (ho c r leido)

theorem Contestado.append (h : Contestado s historia r i d fase falta leido)
    (o : List Suceso) : Contestado s (historia ++ o) r i d fase falta leido :=
  ⟨List.mem_append_left _ h.producido, h.avance, h.resto⟩

theorem ocioso_iff : s.ocioso = true ↔ s.pedidos = [] ∧ s.respuestas = [] := by
  simp [ocioso]

theorem numero_update {cpus : ℕ → Etapa} {etapa : Etapa} (h : etapa.numero = (cpus c).numero)
    (c' : ℕ) : (Function.update cpus c etapa c').numero = (cpus c').numero := by
  rw [Function.update_apply]
  split
  · next heq => rw [h, heq]
  · rfl

/-- On an idle connection a CPU that is not free has read its whole reply. -/
theorem Ordenado.leido_entero (h : Ordenado s historia) (hocioso : s.ocioso = true)
    (hc : s.cpus c = .recibiendo r fase falta leido) :
    ∃ i d, .enviado c r i ∈ historia ∧ Contestado s historia r i d fase falta leido ∧
      marcar r (serverProcesarMensaje (.instancia i) d) = leido := by
  obtain ⟨hpedidos, hrespuestas⟩ := ocioso_iff.1 hocioso
  obtain ⟨i, hi, hpendiente | ⟨d, hcontestado⟩⟩ := h.lectura c r fase falta leido hc
  · rw [hpendiente.pedidos] at hpedidos
    cases hpedidos
  · obtain ⟨resto, hresto, hfin⟩ := hcontestado.resto
    have hvacio : resto = [] := by
      rcases hfin with hfin | ⟨-, hfin⟩
      · exact hfin
      · rw [← hfin, hrespuestas]
    rw [hvacio, List.append_nil] at hresto
    exact ⟨i, d, hi, hcontestado, hresto⟩

theorem Ordenado.enviar (h : Ordenado s historia) (hocioso : s.ocioso = true)
    (hp : s.enviar c i = .ok (o, s')) : Ordenado s' (historia ++ o) := by
  obtain ⟨hpedidos, hrespuestas⟩ := ocioso_iff.1 hocioso
  unfold Canal.enviar at hp
  cases hc : s.cpus c with
  | recibiendo r fase falta leido =>
    rw [hc] at hp
    cases hp
  | libre =>
    rw [hc] at hp
    cases hp
    refine ⟨?_, ?_, ?_, ?_, ?_⟩
    · intro c' r' fase' falta' leido' hc'
      simp only [conEtapa, Function.update_apply] at hc'
      split at hc'
      · next heq =>
        cases hc'
        refine ⟨i, by simp [heq], Or.inl ⟨?_, hrespuestas, rfl, rfl, rfl⟩⟩
        simp [conEtapa, hpedidos]
      · obtain ⟨i', d', hi', hd', hleido⟩ := h.leido_entero hocioso hc'
        refine ⟨i', List.mem_append_left _ hi', Or.inr ⟨d', ?_⟩⟩
        exact ⟨List.mem_append_left _ hd'.producido, hd'.avance, [], by simp [hleido], Or.inl rfl⟩
    · intro c' r' hc'
      simp only [conEtapa, Function.update_apply] at hc'
      split at hc'
      · cases hc'
        exact Nat.lt_succ_self _
      · exact (h.numero c' r' hc').trans (Nat.lt_succ_self _)
    · intro c₁ c₂ r' h₁ h₂
      simp only [conEtapa, Function.update_apply] at h₁ h₂
      split at h₁ <;> split at h₂
      · simp_all
      · cases h₁
        exact absurd (h.numero _ _ h₂) (lt_irrefl _)
      · cases h₂
        exact absurd (h.numero _ _ h₁) (lt_irrefl _)
      · exact h.distintos _ _ _ h₁ h₂
    · exact Or.inr ⟨_, by rw [conEtapa, hpedidos, List.nil_append], hrespuestas⟩
    · exact emparejados_append h.emparejados (by simp)

theorem Ordenado.finalizar (h : Ordenado s historia) (hocioso : s.ocioso = true) :
    Ordenado s.finalizar.2 (historia ++ s.finalizar.1) := by
  obtain ⟨hpedidos, hrespuestas⟩ := ocioso_iff.1 hocioso
  rw [show s.finalizar.1 = [] from rfl, List.append_nil]
  refine ⟨fun c r fase falta leido hc => ?_, fun c r hc => ?_, h.distintos, ?_, h.emparejados⟩
  · obtain ⟨i, d, hi, hd, hleido⟩ := h.leido_entero hocioso hc
    exact ⟨i, hi, Or.inr ⟨d, hd.producido, hd.avance, [], by simp [hleido], Or.inl rfl⟩⟩
  · exact (h.numero c r hc).trans (Nat.lt_succ_self _)
  · exact Or.inr ⟨_, by rw [Canal.finalizar, hpedidos, List.nil_append], hrespuestas⟩

theorem Ordenado.responder (h : Ordenado s historia) (hp : s.responder d = .ok (o, s')) :
    Ordenado s' (historia ++ o) := by
  unfold Canal.responder at hp
  rcases h.turno with hpedidos | ⟨⟨r, pedido⟩, hpedidos, hrespuestas⟩
  · rw [hpedidos] at hp
    cases hp
  · rw [hpedidos] at hp
    cases hp
    refine ⟨fun c r' fase falta leido hc => ?_, h.numero, h.distintos, Or.inl rfl,
      emparejados_append h.emparejados (by simp)⟩
    obtain ⟨i, hi, hpendiente | ⟨d', hd'⟩⟩ := h.lectura c r' fase falta leido hc
    · have heq := hpendiente.pedidos
      rw [hpedidos] at heq
      cases heq
      refine ⟨i, List.mem_append_left _ hi, Or.inr ⟨d, by simp, ?_, ?_⟩⟩
      · rw [hpendiente.fase, hpendiente.falta, hpendiente.leido]
        exact avance_inicial i d
      · exact ⟨_, by rw [hpendiente.leido, List.nil_append], Or.inr ⟨rfl, by
          simp [hrespuestas]⟩⟩
    · obtain ⟨resto, hresto, hfin⟩ := hd'.resto
      have hvacio : resto = [] := by
        rcases hfin with hfin | ⟨hfin, -⟩
        · exact hfin
        · rw [hpedidos] at hfin
          cases hfin
      exact ⟨i, List.mem_append_left _ hi, Or.inr ⟨d', List.mem_append_left _ hd'.producido,
        hd'.avance, resto, hresto, Or.inl hvacio⟩⟩

theorem Ordenado.recibir (h : Ordenado s historia) (hp : s.recibir c n = .ok (o, s')) :
    Ordenado s' (historia ++ o) := by
  unfold Canal.recibir at hp
  cases hc : s.cpus c with
  | libre =>
    rw [hc] at hp
    cases hp
  | recibiendo r fase falta leido =>
    rw [hc] at hp
    dsimp only at hp
    split at hp
    · next hn =>
      cases hp
      obtain ⟨hpos, hfalta, hlargo⟩ := hn
      rw [List.append_nil]
      obtain ⟨i, hi, hpendiente | ⟨d, hd⟩⟩ := h.lectura c r fase falta leido hc
      · rw [hpendiente.respuestas] at hlargo
        exact absurd hlargo (by simp only [List.length_nil]; omega)
      obtain ⟨resto, hresto, hfin⟩ := hd.resto
      have hflujo : s.pedidos = [] ∧ s.respuestas = resto := by
        rcases hfin with rfl | hfin
        · have hcompleto := hd.avance
          rw [List.append_nil] at hresto
          rw [← hresto, length_marcar] at hcompleto
          have := hcompleto.completo
          omega
        · exact hfin
      have hno : s.respuestas ≠ [] := by
        rintro hvacio
        rw [hvacio] at hlargo
        simp only [List.length_nil] at hlargo
        omega
      have hnumero : Etapa.numero (.recibiendo r fase (falta - n)
          (leido ++ s.respuestas.take n)) = (s.cpus c).numero := by
        rw [hc, Etapa.numero, Etapa.numero]
      refine ⟨?_, ?_, ?_, Or.inl hflujo.1, h.emparejados⟩
      · intro c' r' fase' falta' leido' hc'
        simp only [conEtapa, Function.update_apply] at hc'
        split at hc'
        · next heq =>
          cases hc'
          subst heq
          refine ⟨i, hi, Or.inr ⟨d, hd.producido, ?_, resto.drop n, ?_, Or.inr ⟨hflujo.1, ?_⟩⟩⟩
          · rw [List.length_append, List.length_take_of_le hlargo]
            exact hd.avance.tomar hfalta
          · rw [hresto, hflujo.2, List.append_assoc, List.take_append_drop]
          · rw [hflujo.2]
            rfl
        · next hne =>
          obtain ⟨i', hi', hpendiente' | ⟨d', hd'⟩⟩ := h.lectura c' r' fase' falta' leido' hc'
          · exact absurd hpendiente'.respuestas hno
          obtain ⟨resto', hresto', hfin'⟩ := hd'.resto
          have hvacio : resto' = [] := by
            rcases hfin' with hfin' | ⟨-, hfin'⟩
            · exact hfin'
            · by_contra hne'
              obtain ⟨b, hb⟩ := List.exists_mem_of_ne_nil _ hne'
              have hmem : b ∈ marcar r (serverProcesarMensaje (.instancia i) d) := by
                rw [hresto, ← hflujo.2, hfin']
                exact List.mem_append_right _ hb
              have hmem' : b ∈ marcar r' (serverProcesarMensaje (.instancia i') d') := by
                rw [hresto']
                exact List.mem_append_right _ hb
              have hbr : b.1 = r := fst_of_mem_marcar hmem
              have hbr' : b.1 = r' := fst_of_mem_marcar hmem'
              rw [hbr] at hbr'
              subst hbr'
              exact hne (h.distintos c' c r (by rw [hc', Etapa.numero]) (by rw [hc, Etapa.numero]))
          exact ⟨i', hi', Or.inr ⟨d', hd'.producido, hd'.avance, resto', hresto', Or.inl hvacio⟩⟩
      · exact fun c' r' hc' => h.numero c' r' ((numero_update hnumero c').symm.trans hc')
      · exact fun c₁ c₂ r' h₁ h₂ => h.distintos c₁ c₂ r'
          ((numero_update hnumero c₁).symm.trans h₁) ((numero_update hnumero c₂).symm.trans h₂)
    · cases hp

theorem Ordenado.completar (h : Ordenado s historia) (hp : s.completar c = .ok (o, s')) :
    Ordenado s' (historia ++ o) := by
  unfold Canal.completar at hp
  split at hp
  · next r fase leido hc =>
    obtain ⟨i, hi, hpendiente | ⟨d, hd⟩⟩ := h.lectura c r fase 0 leido hc
    · exact absurd hpendiente.falta (by decide)
    obtain ⟨resto, hresto, hfin⟩ := hd.resto
    split at hp
    · cases hp
    · next hsiguiente =>
      cases hp
      have hlargo := hd.avance.largo (siguiente_none hsiguiente)
      have hvacio : resto = [] := by
        have hsuma := congrArg List.length hresto
        rw [length_marcar, List.length_append, ← hlargo] at hsuma
        exact List.eq_nil_of_length_eq_zero (by omega)
      rw [hvacio, List.append_nil] at hresto
      refine ⟨?_, ?_, ?_, h.turno, ?_⟩
      · intro c' r' fase' falta' leido' hc'
        simp only [conEtapa, Function.update_apply] at hc'
        split at hc'
        · cases hc'
        · obtain ⟨i', hi', hlectura⟩ := h.lectura c' r' fase' falta' leido' hc'
          refine ⟨i', List.mem_append_left _ hi', hlectura.imp (fun hl => ?_) ?_⟩
          · exact ⟨hl.pedidos, hl.respuestas, hl.fase, hl.falta, hl.leido⟩
          · rintro ⟨d', hd'⟩
            exact ⟨d', List.mem_append_left _ hd'.producido, hd'.avance, hd'.resto⟩
      · intro c' r' hc'
        simp only [conEtapa, Function.update_apply] at hc'
        split at hc'
        · cases hc'
        · exact h.numero c' r' hc'
      · intro c₁ c₂ r' h₁ h₂
        simp only [conEtapa, Function.update_apply] at h₁ h₂
        split at h₁
        · cases h₁
        · split at h₂
          · cases h₂
          · exact h.distintos c₁ c₂ r' h₁ h₂
      · intro c' r' leido' hmem
        rcases List.mem_append.1 hmem with hmem | hmem
        · obtain ⟨i', d', hi', hd', hleido⟩ := h.emparejados c' r' leido' hmem
          exact ⟨i', d', List.mem_append_left _ hi', List.mem_append_left _ hd', hleido⟩
        · cases List.mem_singleton.1 hmem
          exact ⟨i, d, List.mem_append_left _ hi, List.mem_append_left _ hd.producido,
            hresto.symm⟩
    · next n hsiguiente =>
      cases hp
      have hfase : fase = .tamanio := by
        cases fase <;> simp_all [siguiente]
      subst hfase
      obtain ⟨hn, havance⟩ := hd.siguiente_tamanio hsiguiente
      cases hn
      rw [List.append_nil]
      have hnumero : Etapa.numero (.recibiendo r .valor i.size leido) = (s.cpus c).numero := by
        rw [hc, Etapa.numero, Etapa.numero]
      refine ⟨?_, ?_, ?_, h.turno, h.emparejados⟩
      · intro c' r' fase' falta' leido' hc'
        simp only [conEtapa, Function.update_apply] at hc'
        split at hc'
        · next heq =>
          cases hc'
          exact ⟨i, by rwa [heq], Or.inr ⟨d, hd.producido, havance, resto, hresto, hfin⟩⟩
        · obtain ⟨i', hi', hlectura⟩ := h.lectura c' r' fase' falta' leido' hc'
          refine ⟨i', hi', hlectura.imp (fun hl => ?_) ?_⟩
          · exact ⟨hl.pedidos, hl.respuestas, hl.fase, hl.falta, hl.leido⟩
          · rintro ⟨d', hd'⟩
            exact ⟨d', hd'.producido, hd'.avance, hd'.resto⟩
      · exact fun c' r' hc' => h.numero c' r' ((numero_update hnumero c').symm.trans hc')
      · exact fun c₁ c₂ r' h₁ h₂ => h.distintos c₁ c₂ r'
          ((numero_update hnumero c₁).symm.trans h₁) ((numero_update hnumero c₂).symm.trans h₂)
  · cases hp

theorem ordenado_inicial : Ordenado Canal.inicial [] where
  lectura c r fase falta leido hc := by cases hc
  numero c r hc := by cases hc
  distintos c c' r hc := by cases hc
  turno := Or.inl rfl
  emparejados c r leido h := by cases h

theorem Ordenado.paso (h : Ordenado s historia) (he : s.deAUno e = true)
    (hp : Canal.paso e s = .ok (o, s')) : Ordenado s' (historia ++ o) := by
  cases e with
  | enviar c i => exact h.enviar he hp
  | finalizar =>
    cases hp
    exact h.finalizar he
  | responder d => exact h.responder hp
  | recibir c n => exact h.recibir hp
  | completar c => exact h.completar hp

/-- As long as every request finds the connection idle, every CPU forwards the reply to
its own request. -/
theorem respuestas_emparejadas {eventos : List Evento} {fin : Canal × List Suceso}
    (h : Reaches (recorded Canal.paso) (fun s e => s.1.deAUno e = true) (Canal.inicial, [])
      eventos fin) : Emparejados fin.2 := by
  have hpaso : ∀ (s : Canal × List Suceso) e o s', Ordenado s.1 s.2 → s.1.deAUno e = true →
      recorded Canal.paso e s = .ok (o, s') → Ordenado s'.1 s'.2 := by
    intro s e o s' hs he hp
    obtain ⟨hp, hhistoria⟩ := recorded_eq_ok.1 hp
    rw [hhistoria]
    exact hs.paso he hp
  exact (h.invariant hpaso ordenado_inicial).emparejados

def instanciaFree : Instancia := ⟨.memfree, 0, by decide⟩

def instanciaRead : Instancia := ⟨.memread, 2, by decide⟩

/-- Two CPUs send a request each, and the second one reads first. -/
def lecturaCruzada : List Evento :=
  [.enviar 0 instanciaFree, .enviar 1 instanciaFree, .responder ⟨true, 0, fun _ => 0⟩,
    .responder ⟨false, 0, fun _ => 0⟩, .recibir 1 4, .completar 1]

theorem respuesta_ajena :
    ¬ ∀ (eventos : List Evento) (fin : Canal × List Suceso),
      Reaches (recorded Canal.paso) (fun _ _ => True) (Canal.inicial, []) eventos fin →
        Emparejados fin.2 := by
  intro h
  have hcorrida : ((guardedRun (recorded Canal.paso) (fun _ _ => true) lecturaCruzada
      (Canal.inicial, [])).any fun fin => decide (.reenviado 1 1
        (marcar 0 ErrCode.mateFreeOk.bytes) ∈ fin.2)) = true := by
    decide +kernel
  obtain ⟨fin, hfin, hmem⟩ := (Option.any_eq_true _ _).1 hcorrida
  obtain ⟨i, d, -, -, hleido⟩ := h lecturaCruzada fin
    ((reaches_of_guardedRun hfin).mono fun _ _ _ => trivial) 1 1 _ (of_decide_eq_true hmem)
  have hprimero : (0, (ErrCode.mateFreeOk.bytes).headD 0) ∈
      marcar 1 (serverProcesarMensaje (.instancia i) d) := by
    rw [← hleido]
    decide
  exact absurd (fst_of_mem_marcar hprimero) (by decide)

/-- One CPU reads two bytes of memory in two pieces, and then another one frees. -/
theorem respuestas_emparejadas_deAUno :
    ∃ fin, guardedRun (recorded Canal.paso) (fun s e => s.1.deAUno e)
      [.enviar 0 instanciaRead, .responder ⟨true, 0, fun _ => 7⟩, .recibir 0 3, .recibir 0 1,
        .completar 0, .recibir 0 2, .completar 0, .enviar 1 instanciaFree,
        .responder ⟨false, 0, fun _ => 0⟩, .recibir 1 4, .completar 1]
      (Canal.inicial, []) = some fin ∧
      .reenviado 0 0 (marcar 0 (encodeInt32 2 ++ [7, 7])) ∈ fin.2 ∧ Emparejados fin.2 := by
  have hcorrida : ((guardedRun (recorded Canal.paso) (fun s e => s.1.deAUno e)
      [.enviar 0 instanciaRead, .responder ⟨true, 0, fun _ => 7⟩, .recibir 0 3, .recibir 0 1,
        .completar 0, .recibir 0 2, .completar 0, .enviar 1 instanciaFree,
        .responder ⟨false, 0, fun _ => 0⟩, .recibir 1 4, .completar 1]
      (Canal.inicial, [])).any fun fin => decide
        (.reenviado 0 0 (marcar 0 (encodeInt32 2 ++ [7, 7])) ∈ fin.2)) = true := by
    decide +kernel
  obtain ⟨fin, hfin, hmem⟩ := (Option.any_eq_true _ _).1 hcorrida
  exact ⟨fin, hfin, of_decide_eq_true hmem, respuestas_emparejadas (reaches_of_guardedRun hfin)⟩

end Pasos

end Canal

end Carpinchos.Conexion
