import Carpinchos.Memoria.NucleoPasos

/-!
# Under fixed assignment a carpincho only moves its own pages

Victims are chosen among the pages of the carpincho that asks, so a call gives a frame of
that carpincho to another page of it, or takes a free one while it is below its quota. The
frames, the bytes and the bits of the pages of the others stay as they were, and so do their
clock hands.
-/

namespace Carpinchos.Memoria

open Outcome Bytes Replacement

def Operacion.pid : Operacion → ℤ
  | .createCarpincho pid => pid
  | .createPagina pid => pid
  | .leerEnPagina pid _ _ _ => pid
  | .escribirEnPagina pid _ _ _ => pid

namespace Nucleo

variable {π : Parametros} {n n' n'' : Nucleo} {pid : ℤ}

section Ajenas

def Ajena (pid : ℤ) (n : Nucleo) (q : ℕ) : Prop := n.existe q ∧ (n.nombre q).1 ≠ pid

/-- Nothing about the other carpinchos has changed. -/
structure Respeta (π : Parametros) (pid : ℤ) (n n' : Nucleo) : Prop where
  ajena : ∀ q, n.Ajena pid q → n'.Ajena pid q
  nombre : ∀ q, n.Ajena pid q → n'.nombre q = n.nombre q
  marcos : ∀ k q, n.Ajena pid q → (n'.marcos k = some q ↔ n.marcos k = some q)
  bytes : ∀ k q, n.Ajena pid q → n.marcos k = some q →
    ∀ o, o < π.tamanioPagina →
      n'.cache (k * π.tamanioPagina + o) = n.cache (k * π.tamanioPagina + o)
  uso : ∀ q, n.Ajena pid q → n'.uso q = n.uso q
  modificada : ∀ q, n.Ajena pid q → n'.modificada q = n.modificada q
  procesos : ∀ c ∈ n.procesos, c.pid ≠ pid → c ∈ n'.procesos

theorem Respeta.refl (n : Nucleo) : Respeta π pid n n :=
  ⟨fun _ h => h, fun _ _ => rfl, fun _ _ _ => Iff.rfl, fun _ _ _ _ _ _ => rfl, fun _ _ => rfl,
    fun _ _ => rfl, fun _ h _ => h⟩

theorem Respeta.trans (h : Respeta π pid n n') (h' : Respeta π pid n' n'') :
    Respeta π pid n n'' where
  ajena := fun q hq => h'.ajena q (h.ajena q hq)
  nombre := fun q hq => (h'.nombre q (h.ajena q hq)).trans (h.nombre q hq)
  marcos := fun k q hq => (h'.marcos k q (h.ajena q hq)).trans (h.marcos k q hq)
  bytes := fun k q hq hk o ho =>
    (h'.bytes k q (h.ajena q hq) ((h.marcos k q hq).2 hk) o ho).trans (h.bytes k q hq hk o ho)
  uso := fun q hq => (h'.uso q (h.ajena q hq)).trans (h.uso q hq)
  modificada := fun q hq => (h'.modificada q (h.ajena q hq)).trans (h.modificada q hq)
  procesos := fun c hc hpid => h'.procesos c (h.procesos c hc hpid) hpid

theorem ajena_of_procesos (hprocesos : ∀ c ∈ n.procesos, c.pid ≠ pid → c ∈ n'.procesos)
    (htablas : n.Tablas) {q : ℕ} (hnombre : n'.nombre q = n.nombre q) (hq : n.Ajena pid q) :
    n'.Ajena pid q := by
  obtain ⟨⟨c, hc, hqc⟩, hpid⟩ := hq
  have hcpid : c.pid ≠ pid := htablas.nombre_pid hc hqc ▸ hpid
  refine ⟨⟨c, hprocesos c hc hcpid, hqc⟩, ?_⟩
  rw [hnombre]
  exact hpid

theorem mem_setProceso {f : Proceso → Proceso} {c : Proceso} (hc : c ∈ n.procesos)
    (hpid : c.pid ≠ pid) : c ∈ (n.setProceso pid f).procesos :=
  List.mem_map.2 ⟨c, hc, if_neg hpid⟩

end Ajenas

section Desalojo

/-- The choice of a victim looks only at the pages of the carpincho that asks. -/
theorem elegir_respeta (htipo : π.tipoAsignacion = .fija) (hb : n.Bien π) {v : ℕ}
    (h : n.elegir π pid = .ok (v, n')) : Respeta π pid n n' := by
  unfold elegir at h
  split at h
  · unfold elegirLru at h
    split at h
    · cases h
    · cases h
      exact Respeta.refl n
  · unfold elegirMClock at h
    split at h
    · cases h
    · split at h
      · cases h
      · next last _ =>
        have hother : ∀ q, n.Ajena pid q → (search n.modificada ((n.candidatos π pid).drop last)
            last cuatroPasadas n.uso).2 q = n.uso q := by
          intro q hq
          apply search_other
          intro hmem
          exact hq.2 (candidato_esDe htipo (List.mem_of_mem_drop hmem))
        split at h
        · cases h
        · next heq =>
          cases h
          rw [heq] at hother
          unfold ponerManecilla
          rw [htipo]
          refine ⟨fun q hq => ?_, fun _ _ => rfl, fun _ _ _ => Iff.rfl, fun _ _ _ _ _ _ => rfl,
            hother, fun _ _ => rfl, fun c hc hpid => mem_setProceso hc hpid⟩
          refine ajena_of_procesos ?_ hb.tablas rfl hq
          exact fun c hc hpid => mem_setProceso hc hpid

theorem reemplazar_respeta {v k p : ℕ} (hv : n.marcos k = some v) (hpid : (n.nombre v).1 = pid)
    (hp : ¬ n.Ajena pid p) : Respeta π pid n (n.reemplazar π v k p) where
  ajena := by
    intro q hq
    unfold Ajena existe
    rw [reemplazar_procesos, reemplazar_nombre]
    exact hq
  nombre := fun q _ => by rw [reemplazar_nombre]
  marcos := by
    intro j q hq
    rw [reemplazar_marcos]
    by_cases hj : j = k
    · subst hj
      rw [Function.update_self, hv]
      refine iff_of_false (fun heq => ?_) fun heq => ?_
      · exact hp (Option.some.inj heq ▸ hq)
      · exact hq.2 (Option.some.inj heq ▸ hpid)
    · rw [Function.update_of_ne hj]
  bytes := by
    intro j q hq hj o ho
    have hjk : j ≠ k := by
      rintro rfl
      rw [hv] at hj
      exact hq.2 (Option.some.inj hj ▸ hpid)
    rw [reemplazar_cache]
    exact fill_block_other _ _ hjk ho
  uso := fun q _ => by rw [reemplazar_uso]
  modificada := fun q _ => by rw [reemplazar_modificada]
  procesos := fun c hc _ => by rwa [reemplazar_procesos]

theorem desalojarPara_respeta (htipo : π.tipoAsignacion = .fija) (hb : n.Bien π) {p k : ℕ}
    (hp : ¬ n.Ajena pid p) (h : n.desalojarPara π pid p = .ok (k, n')) : Respeta π pid n n' := by
  obtain ⟨⟨v, m⟩, helegir, h⟩ := bind_eq_ok.1 h
  obtain ⟨hv, helegido, hbien⟩ := (elegir_spec hb pid).post_of_eq helegir
  have hrespeta := elegir_respeta htipo hb helegir
  have hpid : (n.nombre v).1 = pid := candidato_esDe htipo hv
  dsimp only at h
  split at h
  · cases h
  · next j hj =>
    cases h
    obtain ⟨-, hmk⟩ := marcoDe_some hj
    have hmpid : (m.nombre v).1 = pid := by rw [helegido.nombre, hpid]
    have hmp : ¬ m.Ajena pid p := by
      intro hm
      refine hp ⟨(existe_of_map_eq helegido.procesos).1 hm.1, ?_⟩
      rw [← helegido.nombre]
      exact hm.2
    exact hrespeta.trans (reemplazar_respeta hmk hmpid hmp)

end Desalojo

section Acceso

theorem respeta_copy {k off p : ℕ} {bs : List UInt8} {mensajes : List Mensaje}
    (hk : n.marcos k = some p) (hpid : (n.nombre p).1 = pid)
    (hbs : off + bs.length ≤ π.tamanioPagina) :
    Respeta π pid n
      { n with cache := copy n.cache (k * π.tamanioPagina + off) bs, mensajes := mensajes } where
  ajena := fun _ hq => hq
  nombre := fun _ _ => rfl
  marcos := fun _ _ _ => Iff.rfl
  bytes := by
    intro j q hq hj o ho
    have hjk : j ≠ k := by
      rintro rfl
      rw [hk] at hj
      exact hq.2 (Option.some.inj hj ▸ hpid)
    exact copy_block_other _ _ _ hjk hbs ho
  uso := fun _ _ => rfl
  modificada := fun _ _ => rfl
  procesos := fun _ hc _ => hc

theorem marcar_respeta (esEscritura : Bool) {p : ℕ} (hp : ¬ n.Ajena pid p) :
    Respeta π pid n (n.marcar π esEscritura p) := by
  unfold marcar
  have hne : ∀ q, n.Ajena pid q → q ≠ p := fun q hq heq => hp (heq ▸ hq)
  split
  · exact ⟨fun _ hq => hq, fun _ _ => rfl, fun _ _ _ => Iff.rfl, fun _ _ _ _ _ _ => rfl,
      fun _ _ => rfl, fun _ _ => rfl, fun _ hc _ => hc⟩
  · exact ⟨fun _ hq => hq, fun _ _ => rfl, fun _ _ _ => Iff.rfl, fun _ _ _ _ _ _ => rfl,
      fun q hq => Function.update_of_ne (hne q hq) _ _,
      fun q hq => Function.update_of_ne (hne q hq) _ _, fun _ hc _ => hc⟩

/-- Pages that SWAmP serves have the size of a page. -/
def TransfierePaginas (π : Parametros) : Prop :=
  ∀ historia pid pagina contenido, π.leerSwamp historia pid pagina = some contenido →
    contenido.length = π.tamanioPagina

theorem recuperar_respeta (htipo : π.tipoAsignacion = .fija) (hleer : TransfierePaginas π)
    (hb : n.Bien π) {p k : ℕ} (hpid : (n.nombre p).1 = pid)
    (h : n.recuperar π p = .ok (k, n')) : Respeta π pid n n' := by
  obtain ⟨⟨j, m⟩, hdesalojar, h⟩ := bind_eq_ok.1 h
  rw [hpid] at hdesalojar
  have hrespeta := desalojarPara_respeta htipo hb (fun hp => hp.2 hpid) hdesalojar
  obtain ⟨v, m', hd⟩ := (desalojarPara_spec hb pid p).post_of_eq hdesalojar
  have hj : m.marcos j = some p := by
    rw [hd.marcos_eq]
    exact Function.update_self _ _ _
  have hmpid : (m.nombre p).1 = pid := by
    rw [hd.paginas.nombre]
    exact hpid
  dsimp only at h
  split at h
  · cases h
  · next contenido hcontenido =>
    cases h
    have hlargo := hleer _ _ _ _ hcontenido
    have hcabe : 0 + contenido.length ≤ π.tamanioPagina := by omega
    exact hrespeta.trans (respeta_copy hj hmpid hcabe)

theorem traer_respeta (htipo : π.tipoAsignacion = .fija) (hleer : TransfierePaginas π)
    (hb : n.Bien π) {p k : ℕ} (hpid : (n.nombre p).1 = pid)
    (h : n.traer π p = .ok (k, n')) : Respeta π pid n n' := by
  unfold traer at h
  split at h
  · cases h
    exact Respeta.refl n
  · exact recuperar_respeta htipo hleer hb hpid h

theorem traer_propia (hb : n.Bien π) (ho : n.OrdenBien π) {p k : ℕ} (hp : n.existe p)
    (hpid : (n.nombre p).1 = pid) (h : n.traer π p = .ok (k, n')) :
    n'.marcos k = some p ∧ (n'.nombre p).1 = pid := by
  have htraida := (traer_spec hb ho hp).post_of_eq h
  refine ⟨htraida.marco, ?_⟩
  rw [htraida.paginas.nombre]
  exact hpid

theorem leer_respeta (htipo : π.tipoAsignacion = .fija) (hleer : TransfierePaginas π)
    (hb : n.Bien π) (ho : n.OrdenBien π) {p tamanio offset : ℕ} {r : Option (List UInt8)}
    (hp : n.existe p) (hpid : (n.nombre p).1 = pid)
    (h : n.leer π p tamanio offset = .ok (r, n')) : Respeta π pid n n' := by
  obtain ⟨⟨k, m⟩, htraer, h⟩ := bind_eq_ok.1 h
  have hrespeta := traer_respeta htipo hleer hb hpid htraer
  obtain ⟨-, hmpid⟩ := traer_propia hb ho hp hpid htraer
  have hmarcar : Respeta π pid m (m.marcar π false p) := marcar_respeta false fun hm => hm.2 hmpid
  dsimp only at h
  split at h <;> cases h <;> exact hrespeta.trans hmarcar

theorem escribir_respeta (htipo : π.tipoAsignacion = .fija) (hleer : TransfierePaginas π)
    (hb : n.Bien π) (ho : n.OrdenBien π) {p offset : ℕ} {buffer : List UInt8} {r : ℤ}
    (hp : n.existe p) (hpid : (n.nombre p).1 = pid)
    (h : n.escribir π p buffer offset = .ok (r, n')) : Respeta π pid n n' := by
  obtain ⟨⟨k, m⟩, htraer, h⟩ := bind_eq_ok.1 h
  have hrespeta := traer_respeta htipo hleer hb hpid htraer
  obtain ⟨hk, hmpid⟩ := traer_propia hb ho hp hpid htraer
  dsimp only at h
  split at h
  · next halcance =>
    cases h
    have hcabe : offset + buffer.length ≤ π.tamanioPagina := by
      unfold alcance at halcance
      split at halcance
      · assumption
      · split at halcance <;> cases halcance
    have hcopia : Respeta π pid m
        { m with cache := copy m.cache (k * π.tamanioPagina + offset) buffer } :=
      respeta_copy hk hmpid hcabe
    apply (hrespeta.trans hcopia).trans
    exact marcar_respeta true fun hm => hm.2 hmpid
  · cases h
    exact hrespeta.trans (marcar_respeta true fun hm => hm.2 hmpid)
  · cases h

end Acceso

section Creacion

theorem nombrar_respeta (hb : n.Bien π) (numero : ℤ) :
    Respeta π pid n (n.nombrar pid numero) := by
  have hnombre : ∀ q, n.Ajena pid q → (n.nombrar pid numero).nombre q = n.nombre q :=
    fun q hq => nombrar_nombre_of_existe hb hq.1
  refine ⟨fun q hq => ?_, hnombre, fun _ _ _ => Iff.rfl, fun _ _ _ _ _ _ => rfl, fun _ _ => rfl,
    fun _ _ => rfl, fun _ hc _ => hc⟩
  exact @ajena_of_procesos n (n.nombrar pid numero) pid (fun _ hc _ => hc) hb.tablas q
    (hnombre q hq) hq

theorem alojarNueva_respeta (htipo : π.tipoAsignacion = .fija) (hb : n.Bien π) {p k : ℕ}
    (hp : ¬ n.existe p) (h : n.alojarNueva π pid p = .ok (k, n')) : Respeta π pid n n' := by
  unfold alojarNueva at h
  split at h
  · split at h
    · cases h
    · next j hj =>
      cases h
      obtain ⟨-, hlibre⟩ := marcoLibre_some hj
      refine ⟨fun _ hq => hq, fun _ _ => rfl, fun i q hq => ?_, fun _ _ _ _ _ _ => rfl,
        fun _ _ => rfl, fun _ _ => rfl, fun _ hc _ => hc⟩
      change Function.update n.marcos k (some p) i = some q ↔ _
      by_cases hi : i = k
      · subst hi
        rw [Function.update_self, hlibre]
        refine iff_of_false (fun heq => ?_) nofun
        exact hp (Option.some.inj heq ▸ hq.1)
      · rw [Function.update_of_ne hi]
  · exact desalojarPara_respeta htipo hb (fun hm => hp hm.1) h

theorem registrar_respeta (ht : n.Tablas) {p : ℕ} (hp : ¬ n.existe p) :
    Respeta π pid n (n.registrar π pid p) := by
  have hne : ∀ q, n.Ajena pid q → q ≠ p := fun q hq heq => hp (heq ▸ hq.1)
  have hprocesos : ∀ c ∈ n.procesos, c.pid ≠ pid → c ∈ (n.registrar π pid p).procesos := by
    intro c hc hpid
    rw [registrar_procesos]
    exact List.mem_map.2 ⟨c, hc, if_neg hpid⟩
  refine ⟨fun q hq => ?_, fun q _ => by rw [registrar_nombre],
    fun k q _ => by rw [registrar_marcos],
    fun _ _ _ _ _ _ => by rw [registrar_cache], fun q hq => ?_, fun q hq => ?_, hprocesos⟩
  · exact ajena_of_procesos hprocesos ht (by rw [registrar_nombre]) hq
  · unfold registrar
    split
    · rfl
    · exact Function.update_of_ne (hne q hq) _ _
  · unfold registrar
    split
    · rfl
    · exact Function.update_of_ne (hne q hq) _ _

theorem crear_respeta (htipo : π.tipoAsignacion = .fija) (hb : n.Bien π) {p : ℕ}
    (h : n.crear π pid = .ok (p, n')) : Respeta π pid n n' := by
  unfold crear at h
  split at h
  · cases h
  · next c hc =>
    obtain ⟨⟨k, m⟩, halojar, h⟩ := bind_eq_ok.1 h
    cases h
    have hfresca : ¬ (n.nombrar pid (c.paginas.length + 1)).existe n.proximoPtr :=
      no_existe_proximoPtr hb.tablas
    have halojada := (alojarNueva_spec (nombrar_bien hb) pid n.proximoPtr).post_of_eq halojar
    have hbien : m.Tablas := (nombrar_bien hb).tablas.of_map_eq halojada.paginas.procesos
      halojada.paginas.nombre halojada.paginas.proximoPtr
    have hm : ¬ m.existe n.proximoPtr := by
      rw [existe_of_map_eq halojada.paginas.procesos]
      exact hfresca
    apply (nombrar_respeta hb (c.paginas.length + 1)).trans
    apply (alojarNueva_respeta htipo (nombrar_bien hb) hfresca halojar).trans
    exact registrar_respeta hbien hm

theorem crearProceso_respeta (ht : n.Tablas) : Respeta π pid n (n.crearProceso pid) := by
  have hprocesos : ∀ c ∈ n.procesos, c.pid ≠ pid → c ∈ (n.crearProceso pid).procesos := by
    intro c hc _
    unfold crearProceso
    split
    · exact hc
    · exact List.mem_append_left _ hc
  have hcampos : (n.crearProceso pid).nombre = n.nombre ∧ (n.crearProceso pid).marcos = n.marcos ∧
      (n.crearProceso pid).cache = n.cache ∧ (n.crearProceso pid).uso = n.uso ∧
      (n.crearProceso pid).modificada = n.modificada := by
    unfold crearProceso
    split <;> exact ⟨rfl, rfl, rfl, rfl, rfl⟩
  obtain ⟨hnombre, hmarcos, hcache, huso, hmodificada⟩ := hcampos
  refine ⟨fun q hq => ?_, fun q _ => by rw [hnombre], fun k q _ => by rw [hmarcos],
    fun _ _ _ _ _ _ => by rw [hcache], fun q _ => by rw [huso], fun q _ => by rw [hmodificada],
    hprocesos⟩
  exact ajena_of_procesos hprocesos ht (by rw [hnombre]) hq

end Creacion

section Pasos

/-- A call leaves the other carpinchos as they were. -/
theorem paso_respeta (htipo : π.tipoAsignacion = .fija) (hleer : TransfierePaginas π)
    (hb : n.Bien π) (ho : n.OrdenBien π) {op : Operacion} {r : Resultado}
    (h : n.paso π op = .ok (r, n')) : Respeta π op.pid n n' := by
  cases op with
  | createCarpincho pid =>
    cases h
    exact crearProceso_respeta hb.tablas
  | createPagina pid =>
    obtain ⟨⟨p, m⟩, hcrear, h⟩ := bind_eq_ok.1 h
    cases h
    exact crear_respeta htipo hb hcrear
  | leerEnPagina pid pagina tamanio offset =>
    obtain ⟨p, hbuscar, h⟩ := bind_eq_ok.1 h
    obtain ⟨⟨contenido, m⟩, hleida, h⟩ := bind_eq_ok.1 h
    cases h
    obtain ⟨hp, hnombre⟩ := (buscar_spec pid pagina).post_of_eq hbuscar
    exact leer_respeta htipo hleer hb ho hp (congrArg Prod.fst hnombre) hleida
  | escribirEnPagina pid pagina buffer offset =>
    obtain ⟨p, hbuscar, h⟩ := bind_eq_ok.1 h
    obtain ⟨⟨result, m⟩, hescrita, h⟩ := bind_eq_ok.1 h
    cases h
    obtain ⟨hp, hnombre⟩ := (buscar_spec pid pagina).post_of_eq hbuscar
    exact escribir_respeta htipo hleer hb ho hp (congrArg Prod.fst hnombre) hescrita

end Pasos

section Cuota

/-- No carpincho holds more frames than its quota. -/
def EnCuota (π : Parametros) (n : Nucleo) : Prop :=
  ∀ pid, n.ocupados π (n.esDe pid) ≤ π.marcosPorCarpincho

theorem EnCuota.of_marcos (h : n.EnCuota π) (hmarcos : n'.marcos = n.marcos)
    (hnombre : ∀ k q, n.marcos k = some q → n'.nombre q = n.nombre q) : n'.EnCuota π := by
  intro pid
  have hcuenta : n'.ocupados π (n'.esDe pid) = n.ocupados π (n.esDe pid) := by
    unfold ocupados
    refine List.countP_congr fun k _ => ?_
    rw [hmarcos]
    cases hk : n.marcos k with
    | none => rfl
    | some q => simp [esDe, hnombre k q hk]
  rw [hcuenta]
  exact h pid

theorem countP_range_le {f f' : ℕ → Bool} {k : ℕ} (hne : ∀ j, j ≠ k → f' j = f j) (N : ℕ) :
    (List.range N).countP f' ≤ (List.range N).countP f + if f' k then 1 else 0 := by
  induction N with
  | zero => exact Nat.zero_le _
  | succ N ih =>
    simp only [List.range_succ, List.countP_append, List.countP_singleton]
    by_cases hN : N = k
    · subst hN
      have hantes : (List.range N).countP f' = (List.range N).countP f := by
        refine List.countP_congr fun j hj => ?_
        rw [hne j (ne_of_lt (List.mem_range.1 hj))]
      rw [hantes]
      omega
    · rw [hne N hN]
      omega

theorem ocupados_update_libre {q : ℕ → Bool} {k p : ℕ}
    (hmarcos : n'.marcos = Function.update n.marcos k (some p)) :
    n'.ocupados π q ≤ n.ocupados π q + if q p then 1 else 0 := by
  have hne : ∀ j, j ≠ k → (n'.marcos j).any q = (n.marcos j).any q := by
    intro j hj
    rw [hmarcos, Function.update_of_ne hj]
  have hcuenta := countP_range_le hne π.cantidadMarcos
  simp only [hmarcos, Function.update_self, Option.any_some] at hcuenta
  unfold ocupados
  rw [hmarcos]
  exact hcuenta

theorem desalojarPara_enCuota (htipo : π.tipoAsignacion = .fija) (hb : n.Bien π) {p k : ℕ}
    (hpid : (n.nombre p).1 = pid) (h : n.desalojarPara π pid p = .ok (k, n'))
    (hcuota : n.EnCuota π) : n'.EnCuota π := by
  obtain ⟨v, m, hd⟩ := (desalojarPara_spec hb pid p).post_of_eq h
  have hv : (n.nombre v).1 = pid := candidato_esDe htipo hd.candidato
  have hnombre : n'.nombre = n.nombre := hd.paginas.nombre
  intro pid'
  have hcuenta : n'.ocupados π (n'.esDe pid') = n.ocupados π (n.esDe pid') := by
    refine ocupados_update_eq hd.marcos_eq hd.marco ?_ fun j r _ _ => ?_
    · simp only [esDe, hnombre, hv, hpid]
    · simp only [esDe, hnombre]
  rw [hcuenta]
  exact hcuota pid'

theorem traer_enCuota (htipo : π.tipoAsignacion = .fija) (hb : n.Bien π) {p k : ℕ}
    (h : n.traer π p = .ok (k, n')) (hcuota : n.EnCuota π) : n'.EnCuota π := by
  unfold traer at h
  split at h
  · cases h
    exact hcuota
  · obtain ⟨⟨j, m⟩, hdesalojar, h⟩ := bind_eq_ok.1 h
    dsimp only at h
    split at h
    · cases h
    · cases h
      exact (desalojarPara_enCuota htipo hb rfl hdesalojar hcuota).of_marcos rfl fun _ _ _ => rfl

theorem marcar_enCuota (esEscritura : Bool) (p : ℕ) (hcuota : n.EnCuota π) :
    (n.marcar π esEscritura p).EnCuota π := by
  apply hcuota.of_marcos (marcar_marcos esEscritura p)
  intro _ _ _
  rw [(marcar_paginas esEscritura p).nombre]

theorem leer_enCuota (htipo : π.tipoAsignacion = .fija) (hb : n.Bien π) {p tamanio offset : ℕ}
    {r : Option (List UInt8)} (h : n.leer π p tamanio offset = .ok (r, n'))
    (hcuota : n.EnCuota π) : n'.EnCuota π := by
  obtain ⟨⟨k, m⟩, htraer, h⟩ := bind_eq_ok.1 h
  have hm := traer_enCuota htipo hb htraer hcuota
  dsimp only at h
  split at h <;> cases h <;> exact marcar_enCuota false p hm

theorem escribir_enCuota (htipo : π.tipoAsignacion = .fija) (hb : n.Bien π) {p offset : ℕ}
    {buffer : List UInt8} {r : ℤ} (h : n.escribir π p buffer offset = .ok (r, n'))
    (hcuota : n.EnCuota π) : n'.EnCuota π := by
  obtain ⟨⟨k, m⟩, htraer, h⟩ := bind_eq_ok.1 h
  have hm := traer_enCuota htipo hb htraer hcuota
  dsimp only at h
  split at h
  · cases h
    apply marcar_enCuota
    exact hm.of_marcos rfl fun _ _ _ => rfl
  · cases h
    exact marcar_enCuota true p hm
  · cases h

theorem alojarNueva_enCuota (htipo : π.tipoAsignacion = .fija) (hb : n.Bien π) {p k : ℕ}
    (hpid : (n.nombre p).1 = pid) (h : n.alojarNueva π pid p = .ok (k, n'))
    (hcuota : n.EnCuota π) : n'.EnCuota π := by
  unfold alojarNueva at h
  split at h
  · next hpuede =>
    split at h
    · cases h
    · next j hj =>
      cases h
      intro pid'
      have hmarcos : ({ n with marcos := Function.update n.marcos k (some p) } : Nucleo).marcos =
          Function.update n.marcos k (some p) := rfl
      have hcuenta : ({ n with marcos := Function.update n.marcos k (some p) } : Nucleo).ocupados π
          (n.esDe pid') ≤ n.ocupados π (n.esDe pid') + if n.esDe pid' p then 1 else 0 :=
        ocupados_update_libre hmarcos
      refine le_trans hcuenta ?_
      by_cases hpid' : pid' = pid
      · subst hpid'
        rw [puedeTomarMarco, htipo, Bool.and_eq_true, decide_eq_true_eq,
          length_filter_residentes] at hpuede
        have hlugar := hpuede.2
        split <;> omega
      · have hno : n.esDe pid' p = false := by
          simp only [esDe, hpid, decide_eq_false_iff_not]
          exact Ne.symm hpid'
        rw [hno]
        exact hcuota pid'
  · exact desalojarPara_enCuota htipo hb hpid h hcuota

theorem crear_enCuota (htipo : π.tipoAsignacion = .fija) (hb : n.Bien π) {p : ℕ}
    (h : n.crear π pid = .ok (p, n')) (hcuota : n.EnCuota π) : n'.EnCuota π := by
  unfold crear at h
  split at h
  · cases h
  · next c hc =>
    obtain ⟨⟨k, m⟩, halojar, h⟩ := bind_eq_ok.1 h
    cases h
    have hnombrada : (n.nombrar pid (c.paginas.length + 1)).EnCuota π := by
      have hmarcos : (n.nombrar pid (c.paginas.length + 1)).marcos = n.marcos := rfl
      apply hcuota.of_marcos hmarcos
      intro j q hq
      exact nombrar_nombre_of_existe hb (hb.marcos.existe j q hq)
    have hpid : ((n.nombrar pid (c.paginas.length + 1)).nombre n.proximoPtr).1 = pid := by
      have hself : (n.nombrar pid (c.paginas.length + 1)).nombre n.proximoPtr =
          (pid, (c.paginas.length : ℤ) + 1) := Function.update_self _ _ _
      rw [hself]
    have halojada := alojarNueva_enCuota htipo (nombrar_bien hb) hpid halojar hnombrada
    exact halojada.of_marcos registrar_marcos fun _ _ _ => by rw [registrar_nombre]

/-- A call keeps every carpincho within its quota. -/
theorem paso_enCuota (htipo : π.tipoAsignacion = .fija) (hb : n.Bien π) {op : Operacion}
    {r : Resultado} (h : n.paso π op = .ok (r, n')) (hcuota : n.EnCuota π) : n'.EnCuota π := by
  cases op with
  | createCarpincho pid =>
    cases h
    unfold crearProceso
    split
    · exact hcuota
    · exact hcuota.of_marcos rfl fun _ _ _ => rfl
  | createPagina pid =>
    obtain ⟨⟨p, m⟩, hcrear, h⟩ := bind_eq_ok.1 h
    cases h
    exact crear_enCuota htipo hb hcrear hcuota
  | leerEnPagina pid pagina tamanio offset =>
    obtain ⟨p, -, h⟩ := bind_eq_ok.1 h
    obtain ⟨⟨contenido, m⟩, hleida, h⟩ := bind_eq_ok.1 h
    cases h
    exact leer_enCuota htipo hb hleida hcuota
  | escribirEnPagina pid pagina buffer offset =>
    obtain ⟨p, -, h⟩ := bind_eq_ok.1 h
    obtain ⟨⟨result, m⟩, hescrita, h⟩ := bind_eq_ok.1 h
    cases h
    exact escribir_enCuota htipo hb hescrita hcuota

theorem inicial_enCuota : inicial.EnCuota π := by
  intro pid
  have hcero : inicial.ocupados π (inicial.esDe pid) = 0 :=
    List.countP_eq_zero.2 fun _ _ => nofun
  rw [hcero]
  exact Nat.zero_le _

end Cuota

end Nucleo

end Carpinchos.Memoria
