import RosPortal.Config.Errors

/-! The schema of the portal's own configuration, and what its parser makes of documents. -/

set_option autoImplicit false

namespace RosPortal.Config

def portalSchema : Document where
  properties := [
    ("$schema", { type := some "string" }),
    ("ros_portal",
      { type := some "object", additionalProperties := false, required := ["version"],
        properties := [
          ("version", { const := some (.string "0.0.1") }),
          ("ros_threads", { ref := some "#/$defs/nonNegativeInteger", default := some (.number (.int 0)) }),
          ("enable_all_ros_topic_stats", { type := some "boolean", default := some (.boolean false) }),
          ("services", { type := some "array", items := some { ref := some "#/$defs/serviceConfig" } }),
          ("topics", { type := some "array", items := some { ref := some "#/$defs/topicConfig" } }),
          ("video_sources", { type := some "array", items := some { ref := some "#/$defs/videoSourceConfig" } })] })]
  defs := [
    ("direction", { enum := some ["in", "out", "bidirectional"] }),
    ("serviceDirection", { enum := some ["out"] }),
    ("encoding", { enum := some ["ros2msg", "ros2idl", "jsonschema"] }),
    ("captureSourceType", { enum := some ["gstreamer", "pattern", "clock"] }),
    ("videoPattern", { enum := some ["gradient", "logo"] }),
    ("videoCodec", { enum := some ["h264", "h265", "vp8", "vp9", "av1"] }),
    ("gstreamerBitrateUnit", { enum := some ["bps", "kbps"] }),
    ("nonemptyString", { type := some "string", minLength := 1 }),
    ("positiveInteger", { type := some "integer", minimum := some (.int 1) }),
    ("nonNegativeInteger", { type := some "integer", minimum := some (.int 0) }),
    ("captureResolution",
      { type := some "object", additionalProperties := false, required := ["width", "height"],
        properties := [
          ("width", { ref := some "#/$defs/positiveInteger" }),
          ("height", { ref := some "#/$defs/positiveInteger" })] }),
    ("gstreamerRateControl",
      { type := some "object", additionalProperties := false, required := ["element", "property", "unit"],
        properties := [
          ("element", { ref := some "#/$defs/nonemptyString" }),
          ("property", { ref := some "#/$defs/nonemptyString" }),
          ("unit", { ref := some "#/$defs/gstreamerBitrateUnit" })] }),
    ("clockSourceConfig",
      { type := some "object", additionalProperties := false,
        properties := [
          ("resolution", { ref := some "#/$defs/captureResolution" }),
          ("framerate_fps", { ref := some "#/$defs/positiveInteger" })] }),
    ("patternSourceConfig",
      { type := some "object", additionalProperties := false,
        properties := [
          ("pattern", { ref := some "#/$defs/videoPattern" }),
          ("resolution", { ref := some "#/$defs/captureResolution" }),
          ("framerate_fps", { ref := some "#/$defs/positiveInteger" })] }),
    ("captureSourceConfig",
      { type := some "object", additionalProperties := false, required := ["type"],
        properties := [
          ("type", { ref := some "#/$defs/captureSourceType" }),
          ("pipeline", { ref := some "#/$defs/nonemptyString" }),
          ("codec", { ref := some "#/$defs/videoCodec" }),
          ("resolution", { ref := some "#/$defs/captureResolution" }),
          ("rate_control", { ref := some "#/$defs/gstreamerRateControl" }),
          ("clock", { ref := some "#/$defs/clockSourceConfig" }),
          ("pattern", { ref := some "#/$defs/patternSourceConfig" })] }),
    ("videoPublishOptions",
      { type := some "object", additionalProperties := false,
        properties := [
          ("max_bitrate_bps", { ref := some "#/$defs/positiveInteger" }),
          ("max_framerate", { ref := some "#/$defs/positiveInteger" })] }),
    ("videoSourceConfig",
      { type := some "object", additionalProperties := false, required := ["track_name", "source"],
        properties := [
          ("track_name", { ref := some "#/$defs/nonemptyString" }),
          ("simulcast", { type := some "boolean", default := some (.boolean false) }),
          ("source", { ref := some "#/$defs/captureSourceConfig" }),
          ("publish_options", { ref := some "#/$defs/videoPublishOptions" })] }),
    ("serviceConfig",
      { type := some "object", additionalProperties := false, required := ["service", "direction", "participant", "msg_type"],
        properties := [
          ("service", { ref := some "#/$defs/nonemptyString" }),
          ("direction", { ref := some "#/$defs/serviceDirection" }),
          ("participant", { ref := some "#/$defs/nonemptyString" }),
          ("msg_type", { ref := some "#/$defs/nonemptyString" })] }),
    ("topicConfig",
      { type := some "object", additionalProperties := false, required := ["topic", "direction"],
        properties := [
          ("topic", { ref := some "#/$defs/nonemptyString" }),
          ("direction", { ref := some "#/$defs/direction" }),
          ("preserve_id", { type := some "boolean", default := some (.boolean false) }),
          ("max_rate_hz", { type := some "number", minimum := some (.int 0) }),
          ("latched", { type := some "boolean", default := some (.boolean false) }),
          ("encoding", { ref := some "#/$defs/encoding", default := some (.string "ros2msg") }),
          ("enable_ros_topic_stats", { type := some "boolean", default := some (.boolean false) })] })]

theorem portalSchema_supported : portalSchema.supported = true := by decide +kernel

theorem portalSchema_exact : portalSchema.exact = true := by decide +kernel

theorem portalSchema_generates : ∃ model, generate 10 portalSchema = .ok model := by
  have generated : (generate 10 portalSchema).isOk = true := by decide +kernel
  cases made : generate 10 portalSchema with
  | ok model => exact ⟨model, rfl⟩
  | error problem =>
      rw [made] at generated
      cases generated

section Documents

def textConversions : Conversions Rat where
  asInt := String.toInt?
  asDouble text := text.toInt?.map fun value => value
  asBool text := if text = "true" then some true else if text = "false" then some false else none
  badConversion _ := "bad conversion"
  less first second := first < second
  ofRat := id
  generalFormat := toString
  fixedFormat := toString

def unmarked (text : String) : Node := .scalar ⟨-1, -1⟩ text

def topicDocument : Node :=
  .map ⟨-1, -1⟩ [(unmarked "ros_portal", .map ⟨-1, -1⟩ [(unmarked "version", unmarked "0.0.1"),
    (unmarked "topics", .sequence ⟨-1, -1⟩
      [.map ⟨-1, -1⟩ [(unmarked "topic", unmarked "/tf"), (unmarked "direction", unmarked "in")]])])]

def topicConfig : Value Rat :=
  .object [("version", some (.string "0.0.1")), ("ros_threads", some (.integer 0)),
    ("enable_all_ros_topic_stats", some (.boolean false)), ("services", some (.array [])),
    ("topics", some (.array [.object [("topic", some (.string "/tf")), ("direction", some (.enum "in")),
      ("preserve_id", some (.boolean false)), ("max_rate_hz", none), ("latched", some (.boolean false)),
      ("encoding", some (.enum "ros2msg")), ("enable_ros_topic_stats", some (.boolean false))]])),
    ("video_sources", some (.array []))]

end Documents

end RosPortal.Config
