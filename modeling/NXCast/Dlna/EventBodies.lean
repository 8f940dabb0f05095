import NXCast.Dlna.TransportState

/-!
# Bodies of notifications

The body of a notification is made of the variables of its service and of nothing else, and it fits
the writer's buffer when the texts are short.
-/

namespace NXCast

open ProtocolWrite

section Bodies

variable {state other : ProtocolState}

lemma ProtocolState.text_eq {name : ProtocolText}
    (h : state.value (.text name) = other.value (.text name)) : state.text name = other.text name :=
  (text.inj h).2

lemma ProtocolState.number_eq {name : ProtocolNumber}
    (h : state.value (.number name) = other.value (.number name)) :
    state.number name = other.number name :=
  (number.inj h).2

lemma eventBuildPropertyset_congr {service : EventService}
    (h : ∀ name ∈ eventVariables service, state.value name = other.value name) :
    eventBuildPropertyset service state = eventBuildPropertyset service other := by
  have htext (name : ProtocolText) (hname : .text name ∈ eventVariables service) :
      state.text name = other.text name := ProtocolState.text_eq (h _ hname)
  have hnumber (name : ProtocolNumber) (hname : .number name ∈ eventVariables service) :
      state.number name = other.number name := ProtocolState.number_eq (h _ hname)
  cases service with
  | avTransport =>
    simp only [eventBuildPropertyset, eventBuildAvtransportLastChange,
      htext .transportState (by decide), htext .transportStatus (by decide),
      htext .currentMediaDuration (by decide), htext .currentTrackDuration (by decide),
      hnumber .currentTrack (by decide), hnumber .numberOfTracks (by decide)]
  | renderingControl =>
    have hmute : state.mute = other.mute := mute.inj (h .mute (by decide))
    simp only [eventBuildPropertyset, eventBuildRenderingcontrolLastChange,
      hnumber .volume (by decide), hmute]
  | connectionManager =>
    simp only [eventBuildPropertyset, htext .currentConnectionIds (by decide)]

lemma eventAppendValElement_fits (tag : String) (value : List UInt8) :
    (eventAppendValElement tag value).Fits ((asciiBytes tag).length + value.length * 6 + 10) := by
  have hfits := (soapWriterAppendLen_fits
    (asciiBytes "<" ++ asciiBytes tag ++ asciiBytes " val=\"")).seq
    ((soapWriterAppendEscaped_fits value).seq (soapWriterAppendLen_fits (asciiBytes "\"/>")))
  have hopen : (asciiBytes "<").length = 1 := by decide
  have hval : (asciiBytes " val=\"").length = 6 := by decide
  have hclose : (asciiBytes "\"/>").length = 3 := by decide
  simp only [List.length_append, hopen, hval, hclose] at hfits
  exact hfits.mono (by omega)

lemma eventAppendNumber_fits (before : String) (value : ℤ) (after : String) :
    (eventAppendNumber before value after).Fits
      ((asciiBytes before).length + (soapDecimal value).length + (asciiBytes after).length) := by
  have hfits := soapWriterAppendLen_fits
    (asciiBytes before ++ soapDecimal value ++ asciiBytes after)
  rwa [List.length_append, List.length_append] at hfits

/-- The `LastChange` is written on its own and then escaped. -/
lemma eventAppendLastChange_fits {lastChange : SoapWriter} {size : ℕ} (h : lastChange.Fits size)
    (hsize : size < soapHandlerOutputMax) :
    (eventAppendLastChange lastChange).Fits (size * 6 + 60) := by
  obtain ⟨text, houtput, hlen⟩ := h.output hsize
  have hfits := (soapWriterAppendLen_fits (asciiBytes "<e:property><LastChange>")).seq
    ((soapWriterAppendEscaped_fits text).seq
      (soapWriterAppendLen_fits (asciiBytes "</LastChange></e:property>")))
  have hopen : (asciiBytes "<e:property><LastChange>").length = 24 := by decide
  have hclose : (asciiBytes "</LastChange></e:property>").length = 26 := by decide
  have hfits' := hfits.mono (show _ ≤ size * 6 + 60 by omega)
  obtain ⟨written, room, ⟨hle, hwrites⟩, hroom⟩ := hfits'
  refine ⟨written, room, ⟨hle, fun out hout => ?_⟩, hroom⟩
  have hproperty : eventAppendLastChange lastChange out =
      lastChange.output.bind fun text => (do
        soapWriterAppendRaw (asciiBytes "<e:property><LastChange>")
        soapWriterAppendEscaped text
        soapWriterAppendRaw (asciiBytes "</LastChange></e:property>") : SoapWriter) out := rfl
  rw [hproperty, houtput]
  exact hwrites out hout

lemma eventBuildPropertyset_fits {property : SoapWriter} {size : ℕ} (h : property.Fits size) :
    SoapWriter.Fits (do
      soapWriterAppendRaw (asciiBytes "<?xml version=\"1.0\" encoding=\"utf-8\"?>")
      soapWriterAppendRaw (asciiBytes "<e:propertyset xmlns:e=\"urn:schemas-upnp-org:event-1-0\">")
      property
      soapWriterAppendRaw (asciiBytes "</e:propertyset>")) (size + 200) := by
  have hfits := (soapWriterAppendLen_fits
    (asciiBytes "<?xml version=\"1.0\" encoding=\"utf-8\"?>")).seq ((soapWriterAppendLen_fits
      (asciiBytes "<e:propertyset xmlns:e=\"urn:schemas-upnp-org:event-1-0\">")).seq
      (h.seq (soapWriterAppendLen_fits (asciiBytes "</e:propertyset>"))))
  have hhead : (asciiBytes "<?xml version=\"1.0\" encoding=\"utf-8\"?>").length ≤ 60 := by decide
  have hopen : (asciiBytes
      "<e:propertyset xmlns:e=\"urn:schemas-upnp-org:event-1-0\">").length ≤ 80 := by decide
  have hclose : (asciiBytes "</e:propertyset>").length ≤ 60 := by decide
  exact hfits.mono (by omega)

lemma isSome_eventBuildPropertyset (service : EventService)
    (htext : ∀ name, (state.text name).length ≤ 100)
    (hnumber : ∀ name, (soapDecimal (state.number name)).length ≤ 20) :
    (eventBuildPropertyset service state).isSome = true := by
  have hval (tag : String) (name : ProtocolText) (htag : (asciiBytes tag).length ≤ 30) :
      (eventAppendValElement tag (state.text name)).Fits 640 := by
    have hlen := htext name
    exact (eventAppendValElement_fits tag _).mono (by omega)
  have hdecimal (before after : String) (value : ℤ) (hvalue : (soapDecimal value).length ≤ 20)
      (hpre : (asciiBytes before).length ≤ 50) (hafter : (asciiBytes after).length ≤ 10) :
      (eventAppendNumber before value after).Fits 80 :=
    (eventAppendNumber_fits before value after).mono (by omega)
  have hraw (text : String) (hlen : (asciiBytes text).length ≤ 100) :
      (soapWriterAppendRaw (asciiBytes text)).Fits 100 :=
    (soapWriterAppendLen_fits (asciiBytes text)).mono hlen
  cases service with
  | avTransport =>
    have hlastChange : (eventBuildAvtransportLastChange state).Fits
        (100 + (640 + (640 + (80 + (80 + (640 + (640 + 100))))))) :=
      (hraw _ (by decide)).seq ((hval _ .transportState (by decide)).seq
        ((hval _ .transportStatus (by decide)).seq
        ((hdecimal _ _ _ (hnumber .currentTrack) (by decide) (by decide)).seq
        ((hdecimal _ _ _ (hnumber .numberOfTracks) (by decide) (by decide)).seq
        ((hval _ .currentMediaDuration (by decide)).seq
        ((hval _ .currentTrackDuration (by decide)).seq (hraw _ (by decide))))))))
    have hfits := eventBuildPropertyset_fits (eventAppendLastChange_fits hlastChange (by decide))
    obtain ⟨text, hout, -⟩ := hfits.output (by decide)
    exact Option.isSome_of_eq_some hout
  | renderingControl =>
    have hmute : (soapDecimal (if state.mute then 1 else 0)).length ≤ 20 := by
      cases state.mute <;> decide +kernel
    have hlastChange : (eventBuildRenderingcontrolLastChange state).Fits
        (100 + (80 + (80 + 100))) :=
      (hraw _ (by decide)).seq ((hdecimal _ _ _ (hnumber .volume) (by decide) (by decide)).seq
        ((hdecimal _ _ _ hmute (by decide) (by decide)).seq (hraw _ (by decide))))
    have hfits := eventBuildPropertyset_fits (eventAppendLastChange_fits hlastChange (by decide))
    obtain ⟨text, hout, -⟩ := hfits.output (by decide)
    exact Option.isSome_of_eq_some hout
  | connectionManager =>
    have hlen := htext .currentConnectionIds
    have hids := (soapWriterAppendEscaped_fits (state.text .currentConnectionIds)).mono
      (show _ ≤ 600 by omega)
    have hproperty := (hraw "<e:property><CurrentConnectionIDs>" (by decide)).seq
      (hids.seq (hraw "</CurrentConnectionIDs></e:property>" (by decide)))
    obtain ⟨text, hout, -⟩ := (eventBuildPropertyset_fits hproperty).output (by decide)
    simp only [bind_assoc] at hout
    exact Option.isSome_of_eq_some hout

end Bodies

end NXCast
