import Carpinchos.Swamp.Contabilidad
import Carpinchos.Swamp.Contenido
import Carpinchos.Swamp.Espacio

/-!
# A page and its neighbours in a swap file

`escribir_swap` copies the same number of bytes whatever the size of a page. A page that is
shorter leaves the rest in the next slot of the file, or past its end.
-/

namespace Carpinchos.Swamp

open Outcome Runs Wire

variable {cfg : Config} {s s' : Estado} {pid pagina : ℤ} {i : ℕ} {r : List UInt8}

section Definiciones

def GuardadaEn (cfg : Config) (pid pagina : ℤ) (archivo : String) (i : ℕ) (bytes : List UInt8)
    (s s' : Estado) : Prop :=
  s'.accesos = s.accesos ++ [.escritura pid pagina archivo (cfg.tamanioPagina * i) bytes]

/-- Only bytes of the slot have changed, and the bytes copied end within the file. -/
structure EnSuLugar (cfg : Config) (archivo : String) (i : ℕ) (bytes : List UInt8)
    (s s' : Estado) : Prop where
  lugar : ∀ a x, s'.contenido a x ≠ s.contenido a x →
    a = archivo ∧ cfg.tamanioPagina * i ≤ x ∧ x < cfg.tamanioPagina * (i + 1)
  archivo : cfg.tamanioPagina * i + bytes.length ≤ cfg.tamanioSwamp

/-- Every write that is accepted, after any requests, stays in its slot. -/
def AislaLugares (cfg : Config) : Prop :=
  ∀ (basura : ℕ → ℤ) (xs : List (Peticion × Basura)) (os : List (List UInt8)) (s : Estado),
    run (serverProcesarMensaje cfg) xs (inicial cfg basura) = .ok (os, s) →
      ∀ pid pagina buffer memoria r s' archivo i bytes,
        escribirSwap cfg pid pagina buffer memoria s = .ok (r, s') →
        GuardadaEn cfg pid pagina archivo i bytes s s' → EnSuLugar cfg archivo i bytes s s'

end Definiciones

section Escrituras

variable {bytes : List UInt8} {m : Marco}

theorem Guarda.guardadaEn_iff (h : Guarda cfg pid pagina bytes i m s s') {archivo : String}
    {j : ℕ} {bytes' : List UInt8} : GuardadaEn cfg pid pagina archivo j bytes' s s' ↔
      archivo = m.archivo ∧ j = m.marco ∧ bytes' = bytes := by
  unfold GuardadaEn
  rw [h.accesos, List.append_cancel_left_eq, List.cons.injEq, Acceso.escritura.injEq]
  constructor
  · rintro ⟨⟨-, -, rfl, hlugar, rfl⟩, -⟩
    exact ⟨rfl, (Nat.eq_of_mul_eq_mul_left cfg.pagina_pos hlugar).symm, rfl⟩
  · rintro ⟨rfl, rfl, rfl⟩
    exact ⟨⟨rfl, rfl, rfl, rfl, rfl⟩, rfl⟩

theorem Guarda.contenido_eq (h : Guarda cfg pid pagina bytes i m s s') (a : String) (x : ℕ) :
    s'.contenido a x =
      if a = m.archivo ∧ cfg.tamanioPagina * m.marco ≤ x ∧
        x < cfg.tamanioPagina * m.marco + bytes.length then
        bytes.getD (x - cfg.tamanioPagina * m.marco) 0
      else s.contenido a x := by
  rw [h.contenido]
  simp only [guardar, Function.update_apply]
  by_cases ha : a = m.archivo
  · simp only [ha, true_and, if_true]
  · simp only [ha, false_and, if_false]

theorem Bien.lugar_en_archivo (hb : Bien cfg s) (hm : s.marcos[i]? = some m) :
    cfg.tamanioPagina * (m.marco + 1) ≤ cfg.tamanioSwamp :=
  (Nat.mul_le_mul_left _ (hb.marco_lt hm)).trans (Nat.mul_div_le _ _)

/-- A page that is not shorter than the bytes that are copied keeps them in its slot. -/
theorem Guarda.enSuLugar (h : Guarda cfg pid pagina bytes i m s s') (hb : Bien cfg s)
    (hbytes : bytes.length ≤ cfg.tamanioPagina) :
    EnSuLugar cfg m.archivo m.marco bytes s s' := by
  have hfin : cfg.tamanioPagina * m.marco + bytes.length ≤ cfg.tamanioPagina * (m.marco + 1) := by
    rw [Nat.mul_succ]
    exact Nat.add_le_add_left hbytes _
  refine ⟨fun a x hx => ?_, hfin.trans (hb.lugar_en_archivo h.hueco)⟩
  rw [h.contenido_eq] at hx
  split at hx
  · next hen => exact ⟨hen.1, hen.2.1, hen.2.2.trans_le hfin⟩
  · exact absurd rfl hx

end Escrituras

section Corridas

def soloGlobal : List (Peticion × Basura) := [(.casoAsignacion global, sinBasura)]

theorem run_soloGlobal (cfg : Config) (basura : ℕ → ℤ) :
    run (serverProcesarMensaje cfg) soloGlobal (inicial cfg basura) =
      .ok ([encodeInt32 0], { inicial cfg basura with casoAsignacion := global }) := rfl

/-- In GLOBAL a carpincho that gets a file with room writes there. -/
theorem escribirSwap_global (hb : Bien cfg s) (hcaso : s.casoAsignacion = global)
    (hubica : UbicaBien cfg pid s) (pagina : ℤ) (buffer : List UInt8) (memoria : Basura) :
    ∃ s', escribirSwap cfg pid pagina buffer memoria s = .ok (encodeInt32 0, s') := by
  obtain ⟨archivo, t, ht, ha, hlugar⟩ := hubica
  obtain ⟨-, -, hconserva, hcaso'⟩ := recibirPagina_escribir hb ht
  have hlugares : t.marcos.map (fun m => (m.archivo, m.marco)) = cfg.lugares := by
    rw [hconserva.marcos]
    exact hb.lugares
  have hlibre : primerLibre archivo t ≠ none := by
    rw [Ne, primerLibre_eq_none, marcosLibres, hconserva.marcos]
    exact hlugar.ne'
  obtain ⟨m, hm⟩ := Option.ne_none_iff_exists'.1 hlibre
  have hhay : hayEspacioArchivo cfg (some archivo) t = .ok (some m) := by
    rw [hayEspacioArchivo_eq hlugares, hm]
  have hchequear : chequearAsignacion cfg pid t = .ok (0, t) := by
    have hno : global ≠ fija := by decide
    rw [chequearAsignacion, hcaso', hcaso, if_neg hno, if_pos rfl, recibirPagina_conocido ha,
      ok_bind]
    dsimp only
    rw [hhay]
    rfl
  unfold escribirSwap
  simp only [ht, ok_bind, hhay, hchequear, if_true]
  exact ⟨_, rfl⟩

/-- Where a page is shorter than the bytes that are copied, the first write reaches the next
slot. -/
theorem not_aislaLugares (hcorta : cfg.tamanioPagina < bytesCopiados)
    (hlugar : 0 < cfg.cantMarcos) :
    ¬ AislaLugares cfg := by
  intro haisla
  obtain ⟨s, hs⟩ : ∃ s, s = { inicial cfg (fun _ => 0) with casoAsignacion := global } := ⟨_, rfl⟩
  have hrun := run_soloGlobal cfg fun _ => 0
  rw [← hs] at hrun
  have hb : Bien cfg s := by
    obtain ⟨hlugares, hconocidos, hpids⟩ := inicial_bien cfg fun _ => 0
    rw [hs]
    exact ⟨hlugares, hconocidos, hpids⟩
  have hlibre : 0 < marcosLibres (archivoConMasEspacio cfg s) s := by
    have hprimero : s.marcos[0]? = some
        { archivo := cfg.archivosSwamp.head cfg.archivos_ne, marco := 0, indice := -1,
          pid := 0 } := by
      rw [hs]
      simp [inicial, iniciarMarcos, lugares_primero hlugar]
    rw [archivoConMasEspacio_vacio (by rw [hs]; rfl), marcosLibres, List.countP_pos_iff]
    exact ⟨_, List.mem_of_getElem? hprimero, by simp⟩
  have hpid : archivoDe 1 s = none := by
    rw [hs]
    rfl
  have hubica := (recibirPagina_nuevo hb.lugares hpid).2 hlibre
  obtain ⟨s', hs'⟩ := escribirSwap_global hb (by rw [hs]) hubica 1 [] ⟨fun _ => 0, fun _ => 1⟩
  obtain ⟨i, m, hguarda⟩ := escribirSwap_guarda hb hs'
  have hen := haisla _ _ _ _ hrun _ _ _ _ _ _ _ _ _ hs' (hguarda.guardadaEn_iff.2 ⟨rfl, rfl, rfl⟩)
  -- The byte after the page was 0 and is 1.
  have hcambia : s'.contenido m.archivo (cfg.tamanioPagina * m.marco + cfg.tamanioPagina) ≠
      s.contenido m.archivo (cfg.tamanioPagina * m.marco + cfg.tamanioPagina) := by
    have hcero : s.contenido = fun _ _ => 0 := by
      rw [hs]
      rfl
    have hlargo : (bytesDesde [] fun _ => 1).length = bytesCopiados := by simp [bytesDesde]
    rw [hguarda.contenido_eq, hcero, hlargo, if_pos ⟨rfl, Nat.le_add_right _ _, by omega⟩,
      Nat.add_sub_cancel_left]
    simp [bytesDesde, hcorta]
  obtain ⟨-, -, hfin⟩ := hen.lugar _ _ hcambia
  rw [Nat.mul_succ] at hfin
  exact absurd hfin (lt_irrefl _)

/-- The writes stay in their slots when a page is not shorter than the bytes that are copied,
and only then, unless there is no slot at all. -/
theorem aislaLugares_iff (cfg : Config) (hdivide : cfg.tamanioPagina ∣ cfg.tamanioSwamp) :
    AislaLugares cfg ↔ bytesCopiados ≤ cfg.tamanioPagina ∨ cfg.tamanioSwamp = 0 := by
  constructor
  · intro haisla
    by_contra hno
    rw [not_or, not_le] at hno
    apply not_aislaLugares hno.1 _ haisla
    exact Nat.div_pos (Nat.le_of_dvd (Nat.pos_of_ne_zero hno.2) hdivide) cfg.pagina_pos
  · intro hcondicion basura xs os s hrun pid pagina buffer memoria r s' archivo i bytes hs' hen
    have hb := (run_ubicada hrun).bien
    rcases escribirSwap_cuenta hb hs' with rfl | ⟨j, m, hguarda, -⟩
    · have hlargo := congrArg List.length hen
      simp at hlargo
    · obtain ⟨rfl, rfl, rfl⟩ := hguarda.guardadaEn_iff.1 hen
      rcases hcondicion with hlarga | hvacio
      · exact hguarda.enSuLugar hb (by simpa [bytesDesde] using hlarga)
      · have hlt := hb.lugar_en_archivo hguarda.hueco
        have hpos := cfg.pagina_pos
        rw [hvacio, Nat.mul_succ] at hlt
        omega

/-- Pages of 64 bytes. -/
theorem aislaLugares_unArchivo : AislaLugares unArchivo :=
  (aislaLugares_iff unArchivo (by decide)).2 (Or.inl (by decide))

/-- A page of eight bytes reaches the slots that follow. -/
theorem lugares_no_aislados :
    ¬ ∀ cfg : Config, cfg.tamanioPagina ∣ cfg.tamanioSwamp → AislaLugares cfg := fun hclaim =>
  not_aislaLugares (by decide) (by decide) (hclaim paginasDeOcho (by decide))

end Corridas

end Carpinchos.Swamp
