import MonitoringConfig.Schema.Basic
/-!
# The alert manager

Who is notified of which alerts, and when.
-/

namespace MonitoringConfig.Schema

/-! ### Channels -/

/-- Whether recoveries are sent too. -/
def sendResolved : Field :=
  .optional "send_resolved" .flag

/-- Notification by mail. -/
def emailConfig : Schema where
  fields := [.text "to", sendResolved, .text "from_", .text "smarthost", .text "hello",
    .text "auth_username", .optional "auth_password" .secret, .optional "auth_secret" .secret,
    .text "auth_identity", (Field.optional "require_tls" .flag).withCamel "requireTLS",
    .optional "tls_config" (.entity .tlsConfig), .text "html", .text "text", .map "headers" .text]

/-- A button below a chat message. -/
def slackAction : Schema where
  fields := [.text "type", .text "text", .text "url", .text "style", .text "name", .text "value"]

/-- A titled value in a chat message. -/
def slackField : Schema where
  fields := [.required "title" .text, .required "value" .text, .optional "short" .flag]

/-- Notification in a chat channel. -/
def slackConfig : Schema where
  fields := [.text "channel", sendResolved, (Field.optional "api_url" .secret).withCamel "apiURL",
    .text "api_url_file", .text "username", .text "icon_emoji",
    (Field.text "icon_url").withCamel "iconURL", .text "title", .text "title_link", .text "pretext",
    .text "text", .text "fallback", .text "color", .flag "short_fields", .text "footer",
    .list "mrkdwn_in" .text, .list "actions" (.entity .slackAction),
    .list "fields" (.entity .slackField), (Field.text "image_url").withCamel "imageURL",
    (Field.text "thumb_url").withCamel "thumbURL", .optional "http_config" (.entity .httpConfig)]

/-- A picture in a page. -/
def pagerDutyImage : Schema where
  fields := [.required "src" .text, .text "href", .text "alt"]

/-- A link in a page. -/
def pagerDutyLink : Schema where
  fields := [.required "href" .text, .text "text"]

/-- Notification by pager. -/
def pagerDutyConfig : Schema where
  fields := [.optional "routing_key" .secret, sendResolved, .text "routing_key_file",
    .optional "service_key" .secret, .text "service_key_file",
    (Field.text "url").withCamel "url", .text "client",
    (Field.text "client_url").withCamel "clientURL", .text "description", .text "severity",
    .text "class_", .text "component", .text "group", .map "details" .text,
    .list "images" (.entity .pagerDutyImage), .list "links" (.entity .pagerDutyLink),
    .optional "http_config" (.entity .httpConfig)]

/-- Notification of a web server. -/
def webhookConfig : Schema where
  fields := [.text "url", sendResolved, .text "url_file", .optional "max_alerts" .whole,
    .optional "http_config" (.entity .httpConfig)]

/-- Who is to respond to an alert. -/
def opsGenieResponder : Schema where
  fields := [.required "type" .text, .text "id", .text "name", .text "username"]

/-- Notification of an on-call service. -/
def opsGenieConfig : Schema where
  fields := [.optional "api_key" .secret, sendResolved, .text "api_key_file",
    (Field.text "api_url").withCamel "apiURL", .text "message", .text "description", .text "source",
    .map "details" .text, .list "responders" (.entity .opsGenieResponder), .list "tags" .text,
    .text "note", .text "priority", .text "entity", .list "actions" .text,
    .optional "update_alerts" .flag, .optional "http_config" (.entity .httpConfig)]

/-- The channels of a receiver, one kind after the other. -/
def receiverOf (email slack pagerDuty webhook opsGenie : Kind) : Schema where
  fields := [.required "name" .text, .list "email_configs" (.entity email),
    .list "slack_configs" (.entity slack), .list "pagerduty_configs" (.entity pagerDuty),
    .list "webhook_configs" (.entity webhook), .list "opsgenie_configs" (.entity opsGenie)]

/-- A named bundle of channels. -/
def receiver : Schema :=
  receiverOf .emailConfig .slackConfig .pagerDutyConfig .webhookConfig .opsGenieConfig

/-! ### Routes and times -/

/-- A node of the routing tree. -/
def route : Schema where
  fields := [.text "receiver", .list "group_by" .text, .optional "group_wait" .duration,
    .optional "group_interval" .duration, .optional "repeat_interval" .duration,
    .list "matchers" .matcher, .flag "continue_", .list "routes" (.entity .route),
    .list "mute_time_intervals" .text, .list "active_time_intervals" .text]

/-- Hours of a day. -/
def timeRange : Schema where
  fields := [.required "start_time" .text, .required "end_time" .text]

/-- Times by the clock and the calendar. -/
def timeInterval : Schema where
  fields := [.list "times" (.entity .timeRange), .list "weekdays" .text,
    .list "days_of_month" .text, .list "months" .text, .list "years" .text, .text "location"]

/-- Times with a name. -/
def muteTimeInterval : Schema where
  fields := [.required "name" .text, .list "time_intervals" (.entity .timeInterval)]

/-- Alerts that mute others. -/
def inhibitRule : Schema where
  fields := [.list "source_matchers" .matcher, .list "target_matchers" .matcher,
    .list "equal" .text, .map "source_match" .text, .map "target_match" .text]

/-! ### The alert manager as a whole -/

/-- What every channel inherits. -/
def alertingGlobal : Schema where
  fields := [.optional "resolve_timeout" .duration, .text "smtp_smarthost", .text "smtp_from",
    .text "smtp_hello", .text "smtp_auth_username", .optional "smtp_auth_password" .secret,
    .optional "smtp_auth_secret" .secret, .text "smtp_auth_identity",
    .optional "smtp_require_tls" .flag, .optional "slack_api_url" .secret, .text "pagerduty_url",
    .text "opsgenie_api_url", .optional "opsgenie_api_key" .secret,
    .optional "http_config" (.entity .httpConfig)]

/-- The configuration of an alert manager. -/
def routingConfig : Schema where
  fields := [.optional "global_" (.entity .alertingGlobal), .optional "route" (.entity .route),
    (Field.list "receivers" (.entity .receiver)).kept,
    .list "inhibit_rules" (.entity .inhibitRule),
    .list "mute_time_intervals" (.entity .muteTimeInterval),
    .list "time_intervals" (.entity .muteTimeInterval), .list "templates" .text]

end MonitoringConfig.Schema
