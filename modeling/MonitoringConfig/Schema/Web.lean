import MonitoringConfig.Schema.Basic
/-!
# Clients of the web

How configurations say who they are to a server they connect to.
-/

namespace MonitoringConfig.Schema

/-- Basic authentication. -/
def basicAuth : Schema where
  fields := [.text "username", .optional "password" .secret, .text "password_file"]

/-- The credentials of an authorization header. -/
def authorization : Schema where
  fields := [.text "type", .optional "credentials" .secret, .text "credentials_file"]

/-- Certificates, and what is checked of them. -/
def tlsConfig : Schema where
  fields := [.text "ca_file", .text "cert_file", .text "key_file", .text "server_name",
    .optional "insecure_skip_verify" .flag, .text "min_version"]

/-- A client of a web server. -/
def httpConfig : Schema where
  fields := [.optional "basic_auth" (.entity .basicAuth),
    .optional "authorization" (.entity .authorization), .optional "bearer_token" .secret,
    .text "bearer_token_file", .optional "tls_config" (.entity .tlsConfig), .text "proxy_url",
    .optional "follow_redirects" .flag, .optional "enable_http2" .flag]

end MonitoringConfig.Schema
