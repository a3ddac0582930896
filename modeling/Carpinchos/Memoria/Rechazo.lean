import Carpinchos.Memoria.Efecto
import Carpinchos.Memoria.SwampFiel

/-!
# A refusal of SWAmP

`memory_memalloc` asks SWAmP before it creates pages. The answer is 1 or -1, and
`check_size_swamp` returns it as a `bool`, where both are true. So a refused request is
served as if it had been granted, and the promise of the call is kept exactly when no
refusal arrives.
-/

namespace Carpinchos.Memoria

open Outcome Estado

section Consulta

variable (E : Entorno)

/-- The number of pages that a request of a size needs from SWAmP: none when the block fits
in the space of the carpincho, or when FIJA does not allow it more pages. -/
def paginasAPedir (cfg : Config) (size : ℤ) : Option Carpincho → Except Falla (Option ℤ)
  | none => do
    let cantPag ← calcularCantidadPaginasNecesaria cfg 0 size
    .ok (some cantPag)
  | some carpincho =>
    planAlloc cfg carpincho.paginas.length carpincho.allocs size (fun _ => none)
      fun espacioLibreActual => do
        let cantPag ← calcularCantidadPaginasNecesaria cfg espacioLibreActual size
        .ok (some cantPag)

def Consulta (pid : ℤ) (size : ℕ) (s : Estado) (cantPag : ℤ) : Prop :=
  paginasAPedir E.config (aInt size) (getCarpincho pid s) = .ok (some cantPag)

def Rechazada (pid : ℤ) (size : ℕ) (s : Estado) : Prop :=
  ∃ cantPag, Consulta E pid size s cantPag ∧ E.puedeEscribirSwamp s.mensajes pid cantPag = -1

/-- A refused request ends in `SIN_ESPACIO` with nothing created, and pages are created only
after an answer of 1. -/
structure RespetaRechazo (pid : ℤ) (size : ℕ) (s : Estado) : Prop where
  rechazo : ∀ cantPag, Consulta E pid size s cantPag →
    E.puedeEscribirSwamp s.mensajes pid cantPag = -1 →
      ∃ s', memoryMemalloc E pid size s = .ok ((.sinEspacio, none), s') ∧
        s'.carpinchosList = s.carpinchosList ∧ s'.proximoPtr = s.proximoPtr
  creacion : ∀ r s', memoryMemalloc E pid size s = .ok (r, s') → s.proximoPtr < s'.proximoPtr →
    ∃ cantPag, Consulta E pid size s cantPag ∧ E.puedeEscribirSwamp s.mensajes pid cantPag = 1

end Consulta

section Plan

variable {E : Entorno} {pid : ℤ} {size : ℕ} {s s' : Estado} {checkStatus : CheckAllocRespuesta}

def preguntado (pid cantPag : ℤ) (s : Estado) : Estado :=
  { s with mensajes := s.mensajes ++ [.consulta pid cantPag] }

/-- What follows from the pages to ask for: the answer of SWAmP decides, or there is no
question and no page is created. -/
def Planifica (E : Entorno) (pid : ℤ) (s : Estado) (r : CheckAllocRespuesta × Estado) :
    Option ℤ → Prop
  | some cantPag => r = if E.puedeEscribirSwamp s.mensajes pid cantPag ≠ 0
      then (.allocSolicitarPagina, createCarpincho pid (preguntado pid cantPag s))
      else (.allocSinEspacio, preguntado pid cantPag s)
  | none => r.2 = s ∧ r.1 ≠ .allocSolicitarPagina

theorem createCarpincho_existente {carpincho : Carpincho}
    (h : getCarpincho pid s = some carpincho) :
    createCarpincho pid s = s := by
  have hexist : existCarpincho pid s = true := by
    obtain ⟨hpid, hmem⟩ := getCarpincho_pid h
    exact List.any_eq_true.2 ⟨carpincho, hmem, by simpa using hpid⟩
  rw [createCarpincho, if_pos hexist]

/-- No fault is excused. -/
def Ninguna (_ : Falla) : Prop := False

theorem solicitarPaginas_planifica {carpincho : Carpincho}
    (hc : getCarpincho pid s = some carpincho) (espacioLibreActual size : ℤ) :
    Agree (solicitarPaginas E pid espacioLibreActual size s)
      (do
        let cantPag ← calcularCantidadPaginasNecesaria E.config espacioLibreActual size
        .ok (some cantPag))
      (Planifica E pid s) Ninguna Ninguna := by
  apply Agree.bind_same
  intro cantPag
  have hcrear : createCarpincho pid (preguntado pid cantPag s) = preguntado pid cantPag s :=
    createCarpincho_existente hc
  by_cases hcero : E.puedeEscribirSwamp s.mensajes pid cantPag = 0
  · simp [Planifica, checkSizeSwamp, hcero, preguntado]
  · simp [Planifica, checkSizeSwamp, hcero, hcrear]
    rfl

theorem checkAlloc_planifica {carpincho : Carpincho} (hc : getCarpincho pid s = some carpincho)
    (size : ℤ) :
    Agree (checkAlloc E carpincho size s) (paginasAPedir E.config size (some carpincho))
      (Planifica E pid s) Ninguna Ninguna := by
  obtain rfl := (getCarpincho_pid hc).1
  simp only [checkAlloc, paginasAPedir]
  refine planAlloc_agree (fun r hr => ⟨rfl, hr⟩) fun libre => ?_
  exact solicitarPaginas_planifica hc libre size

theorem planificarMemalloc_planifica :
    Agree (planificarMemalloc E pid size s)
      (paginasAPedir E.config (aInt size) (getCarpincho pid s))
      (Planifica E pid s) Ninguna Ninguna := by
  unfold planificarMemalloc
  cases hc : getCarpincho pid s with
  | none =>
    apply Agree.bind_same
    intro cantPag
    by_cases hcero : E.puedeEscribirSwamp s.mensajes pid cantPag = 0
    · simp [Planifica, checkSizeSwamp, hcero, preguntado]
    · simp [Planifica, checkSizeSwamp, hcero, preguntado]
  | some c => exact checkAlloc_planifica hc _

theorem planifica_of_consulta {cantPag : ℤ} (h : Consulta E pid size s cantPag) :
    ∃ r, planificarMemalloc E pid size s = .ok r ∧ Planifica E pid s r (some cantPag) := by
  have hplan := @planificarMemalloc_planifica E pid size s
  rw [h] at hplan
  cases hr : planificarMemalloc E pid size s with
  | ok r =>
    rw [hr] at hplan
    exact ⟨r, rfl, hplan⟩
  | error e =>
    rw [hr] at hplan
    exact absurd hplan id

theorem consulta_of_planifica {r : CheckAllocRespuesta × Estado}
    (h : planificarMemalloc E pid size s = .ok r) :
    ∃ o, paginasAPedir E.config (aInt size) (getCarpincho pid s) = .ok o ∧
      Planifica E pid s r o := by
  have hplan := @planificarMemalloc_planifica E pid size s
  rw [h] at hplan
  cases ho : paginasAPedir E.config (aInt size) (getCarpincho pid s) with
  | ok o =>
    rw [ho] at hplan
    exact ⟨o, rfl, hplan⟩
  | error e =>
    rw [ho] at hplan
    exact absurd hplan id

end Plan

section Asignacion

variable {E : Entorno} {pid : ℤ} {size : ℕ} {s s' : Estado}

theorem proximoPtr_asignarMemalloc {checkStatus : CheckAllocRespuesta} {direccion : Option ℕ}
    (hcheck : checkStatus ≠ .allocSolicitarPagina)
    (h : asignarMemalloc E pid size checkStatus s = .ok (direccion, s')) :
    s'.proximoPtr = s.proximoPtr := by
  cases checkStatus with
  | allocSinEspacio =>
    cases h
    rfl
  | allocHeap =>
    obtain ⟨⟨d, s₁⟩, hheap, h⟩ := bind_eq_ok.1 h
    cases h
    obtain ⟨carpincho, -, hheap⟩ := bind_eq_ok.1 hheap
    obtain ⟨asignado, -, hheap⟩ := bind_eq_ok.1 hheap
    dsimp only at hheap
    split at hheap
    · cases hheap
      rfl
    · obtain ⟨s₂, hpersistir, hheap⟩ := bind_eq_ok.1 hheap
      cases hheap
      exact Eq.trans (proximoPtr_of_heaps (heaps_persistirMetadataHeap hpersistir)) rfl
  | allocPagina =>
    obtain ⟨⟨d, s₁⟩, hpagina, h⟩ := bind_eq_ok.1 h
    cases h
    obtain ⟨carpincho, -, hpagina⟩ := bind_eq_ok.1 hpagina
    cases hpagina
    rfl
  | allocSolicitarPagina => exact absurd rfl hcheck

theorem heaps_persistirDireccion {direccion : ℕ}
    (h : persistirDireccion E pid direccion s = .ok s') : s'.heaps = s.heaps := by
  obtain ⟨carpincho, -, h⟩ := bind_eq_ok.1 h
  split at h
  · cases h
  · exact heaps_persistirMetadataHeap h

/-- A request that asks for pages never ends in `SIN_ESPACIO`. -/
theorem asignarMemalloc_solicitar {direccion : Option ℕ}
    (h : asignarMemalloc E pid size .allocSolicitarPagina s = .ok (direccion, s')) :
    direccion.isSome = true := by
  obtain ⟨⟨d, s₁⟩, -, h⟩ := bind_eq_ok.1 h
  cases h
  rfl

end Asignacion

section Rechazo

variable {E : Entorno} {pid : ℤ} {size : ℕ} {s : Estado}

/-- The answer of a refusal is true as a `bool`: the call does not end in `SIN_ESPACIO`. -/
theorem memalloc_rechazada {cantPag : ℤ} (h : Consulta E pid size s cantPag)
    (hno : E.puedeEscribirSwamp s.mensajes pid cantPag = -1) (s' : Estado) :
    memoryMemalloc E pid size s ≠ .ok ((.sinEspacio, none), s') := by
  intro hok
  obtain ⟨⟨checkStatus, s₁⟩, hplan, hplanifica⟩ := planifica_of_consulta h
  obtain ⟨⟨checkStatus', s₁'⟩, hplan', hok⟩ := bind_eq_ok.1 hok
  rw [hplan] at hplan'
  cases hplan'
  have hcheck : checkStatus = .allocSolicitarPagina := by
    simp only [Planifica, hno] at hplanifica
    exact congrArg Prod.fst hplanifica
  subst hcheck
  obtain ⟨⟨direccion, s₂⟩, hasignar, hok⟩ := bind_eq_ok.1 hok
  obtain ⟨d, rfl⟩ := Option.isSome_iff_exists.1 (asignarMemalloc_solicitar hasignar)
  obtain ⟨s₃, -, hok⟩ := bind_eq_ok.1 hok
  cases hok

/-- Pages are created only when SWAmP was asked and did not answer 0. -/
theorem consulta_of_paginas_nuevas {r : StatusMemoryOp × Option ℕ} {s' : Estado}
    (h : memoryMemalloc E pid size s = .ok (r, s')) (hpaginas : s.proximoPtr < s'.proximoPtr) :
    ∃ cantPag, Consulta E pid size s cantPag ∧
      E.puedeEscribirSwamp s.mensajes pid cantPag ≠ 0 := by
  obtain ⟨⟨checkStatus, s₁⟩, hplan, h⟩ := bind_eq_ok.1 h
  obtain ⟨⟨direccion, s₂⟩, hasignar, h⟩ := bind_eq_ok.1 h
  have hptr : s'.proximoPtr = s₂.proximoPtr := by
    cases direccion with
    | none =>
      cases h
      rfl
    | some direccion =>
      obtain ⟨s₃, hpersistir, h⟩ := bind_eq_ok.1 h
      cases h
      exact proximoPtr_of_heaps (heaps_persistirDireccion hpersistir)
  obtain ⟨o, ho, hplanifica⟩ := consulta_of_planifica hplan
  cases o with
  | none =>
    obtain ⟨heq, hcheck⟩ := hplanifica
    obtain rfl : s₁ = s := heq
    have hsin := proximoPtr_asignarMemalloc hcheck hasignar
    omega
  | some cantPag =>
    refine ⟨cantPag, ho, fun hcero => ?_⟩
    rw [Planifica, if_neg (by simpa using hcero)] at hplanifica
    cases hplanifica
    have hsin := proximoPtr_asignarMemalloc (by simp) hasignar
    have hpregunta : (preguntado pid cantPag s).proximoPtr = s.proximoPtr := rfl
    omega

/-- The call keeps its promise exactly when SWAmP does not refuse it. SWAmP answers 1 or -1. -/
theorem respetaRechazo_iff
    (hrespuesta : ∀ historia pid cantPag, E.puedeEscribirSwamp historia pid cantPag = 1 ∨
      E.puedeEscribirSwamp historia pid cantPag = -1) :
    RespetaRechazo E pid size s ↔ ¬ Rechazada E pid size s := by
  constructor
  · rintro h ⟨cantPag, hconsulta, hno⟩
    obtain ⟨s', hok, -⟩ := h.rechazo cantPag hconsulta hno
    exact memalloc_rechazada hconsulta hno s' hok
  · intro h
    constructor
    · intro cantPag hconsulta hno
      exact absurd ⟨cantPag, hconsulta, hno⟩ h
    · intro r s' hok hpaginas
      obtain ⟨cantPag, hconsulta, -⟩ := consulta_of_paginas_nuevas hok hpaginas
      rcases hrespuesta s.mensajes pid cantPag with hsi | hno
      · exact ⟨cantPag, hconsulta, hsi⟩
      · exact absurd ⟨cantPag, hconsulta, hno⟩ h

/-- A new carpincho gets its page from a SWAmP that grants it. -/
theorem respetaRechazo_concedida : RespetaRechazo (entornoFiel configHeap) 1 5 estadoHeap := by
  refine (respetaRechazo_iff fun _ _ _ => Or.inl rfl).2 ?_
  rintro ⟨cantPag, -, hno⟩
  cases hno

/-- The module with a SWAmP that has no room. -/
def entornoLleno (cfg : Config) : Entorno :=
  { entornoFiel cfg with puedeEscribirSwamp := fun _ _ _ => -1 }

/-- SWAmP refuses the only page that a new carpincho needs, and the block is given. -/
theorem rechazo_ignorado :
    Consulta (entornoLleno configHeap) 1 5 estadoHeap 1 ∧
      (entornoLleno configHeap).puedeEscribirSwamp estadoHeap.mensajes 1 1 = -1 ∧
      (∃ r, memoryMemalloc (entornoLleno configHeap) 1 5 estadoHeap = .ok r ∧
        r.1 = (.exito, some 9)) ∧
      ¬ RespetaRechazo (entornoLleno configHeap) 1 5 estadoHeap := by
  have hconsulta : Consulta (entornoLleno configHeap) 1 5 estadoHeap 1 := by
    have hpaginas : returns (paginasAPedir configHeap (aInt 5) (getCarpincho 1 estadoHeap))
        (fun o => o = some 1) = true := by decide +kernel
    obtain ⟨o, ho, heq⟩ := exists_of_returns hpaginas
    rw [of_decide_eq_true heq] at ho
    exact ho
  refine ⟨hconsulta, rfl, ?_, ?_⟩
  · have hok : returns (memoryMemalloc (entornoLleno configHeap) 1 5 estadoHeap)
        (fun r => r.1 = (.exito, some 9)) = true := by decide +kernel
    obtain ⟨r, hr, heq⟩ := exists_of_returns hok
    exact ⟨r, hr, of_decide_eq_true heq⟩
  · intro h
    obtain ⟨s', hok, -⟩ := h.rechazo 1 hconsulta rfl
    exact memalloc_rechazada hconsulta rfl s' hok

end Rechazo

end Carpinchos.Memoria
