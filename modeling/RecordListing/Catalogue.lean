import RecordListing.Entity

namespace RecordListing.Catalogue

/-!
# The catalogue

The declaration of every kind of records.
-/

def creatorPath : String := "billingItem.orderItem.order.userRecord.username"

def volumeColumns : List ColumnDeclaration := [
  ⟨"id", "id", .integer, "ID", .raw⟩,
  ⟨"username", "username", .text, "Username", .raw⟩,
  ⟨"datacenter", "serviceResource.datacenter.name", .text, "Datacenter", .raw⟩,
  ⟨"capacity_gb", "capacityGb", .integer, "Capacity (GB)", .raw⟩,
  ⟨"storage_type", "storageType.keyName", .text, "Storage Type", .lowercase⟩,
  ⟨"bytes_used", "bytesUsed", .integer, "Bytes Used", .raw⟩,
  ⟨"IOPs", "iops", .text, "IOPs", .raw⟩,
  ⟨"ip_addr", "serviceResourceBackendIpAddress", .text, "IP Address", .raw⟩,
  ⟨"lunId", "lunId", .integer, "LUN ID", .raw⟩,
  ⟨"active_transactions", "activeTransactionCount", .integer, "Active Transactions", .raw⟩,
  ⟨"rep_partner_count", "replicationPartnerCount", .integer, "Replication Partners", .raw⟩,
  ⟨"created_by", creatorPath, .text, "Created By", .raw⟩,
  ⟨"notes", "notes", .text, "Notes", .raw⟩,
  ⟨"mount_addr", "fileNetworkMountAddress", .text, "Mount Address", .raw⟩]

def snapshotColumns : List ColumnDeclaration := [
  ⟨"id", "id", .integer, "ID", .raw⟩,
  ⟨"name", "username", .text, "Name", .raw⟩,
  ⟨"created", "snapshotCreationTimestamp", .timestamp, "Created", .raw⟩,
  ⟨"size_bytes", "snapshotSizeBytes", .integer, "Size (Bytes)", .raw⟩,
  ⟨"notes", "notes", .text, "Notes", .raw⟩]

def accessHostColumns : List ColumnDeclaration := [
  ⟨"id", "id", .integer, "ID", .raw⟩,
  ⟨"name", "fullyQualifiedDomainName", .text, "Name", .raw⟩,
  ⟨"type", "type", .text, "Type", .raw⟩,
  ⟨"private_ip_address", "primaryBackendIpAddress", .text, "Private IP Address", .raw⟩,
  ⟨"source_subnet", "allowedHost.sourceSubnet", .text, "Source Subnet", .raw⟩,
  ⟨"host_iqn", "allowedHost.name", .text, "Host IQN", .raw⟩,
  ⟨"username", "allowedHost.credential.username", .text, "Username", .raw⟩,
  ⟨"password", "allowedHost.credential.password", .text, "Password", .raw⟩,
  ⟨"allowed_host_id", "allowedHost.id", .integer, "Allowed Host ID", .raw⟩]

def subnetColumns : List ColumnDeclaration := [
  ⟨"id", "id", .integer, "ID", .raw⟩,
  ⟨"identifier", "networkIdentifier", .text, "Identifier", .raw⟩,
  ⟨"type", "subnetType", .text, "Type", .raw⟩,
  ⟨"network_space", "networkVlan.networkSpace", .text, "Network Space", .raw⟩,
  ⟨"datacenter", "datacenter.name", .text, "Datacenter", .raw⟩,
  ⟨"vlan_id", "networkVlan.id", .integer, "VLAN ID", .raw⟩,
  ⟨"IPs", "ipAddressCount", .integer, "IPs", .raw⟩,
  ⟨"hardware", "hardware", .count, "Hardware", .raw⟩,
  ⟨"virtual_servers", "virtualGuests", .count, "Virtual Servers", .raw⟩]

def hardwareColumns : List ColumnDeclaration := [
  ⟨"id", "id", .integer, "ID", .raw⟩,
  ⟨"hostname", "hostname", .text, "Hostname", .raw⟩,
  ⟨"domain", "domain", .text, "Domain", .raw⟩,
  ⟨"public_ip", "primaryIpAddress", .text, "Public IP", .raw⟩,
  ⟨"private_ip", "primaryBackendIpAddress", .text, "Private IP", .raw⟩,
  ⟨"datacenter", "datacenter.name", .text, "Datacenter", .raw⟩,
  ⟨"status", "hardwareStatus.status", .text, "Status", .raw⟩,
  ⟨"guid", "globalIdentifier", .text, "GUID", .raw⟩,
  ⟨"cpu", "processorPhysicalCoreAmount", .integer, "CPU", .raw⟩,
  ⟨"memory", "memoryCapacity", .integer, "Memory", .raw⟩,
  ⟨"os", "operatingSystem.softwareLicense.softwareDescription.name", .text, "OS", .raw⟩,
  ⟨"ipmi_ip", "networkManagementIpAddress", .text, "IPMI IP", .raw⟩,
  ⟨"created", "provisionDate", .timestamp, "Created", .raw⟩,
  ⟨"created_by", creatorPath, .text, "Created By", .raw⟩,
  ⟨"tags", "tagReferences", .text, "Tags", .join "tag.name"⟩]

def userColumns : List ColumnDeclaration := [
  ⟨"id", "id", .integer, "ID", .raw⟩,
  ⟨"username", "username", .text, "Username", .raw⟩,
  ⟨"email", "email", .text, "Email", .raw⟩,
  ⟨"displayName", "displayName", .text, "Display Name", .raw⟩,
  ⟨"2FA", "externalBindingCount", .integer, "2FA", .raw⟩,
  ⟨"classicAPIKey", "apiAuthenticationKeyCount", .integer, "Classic API Key", .raw⟩,
  ⟨"status", "userStatus.name", .text, "Status", .raw⟩,
  ⟨"hardwareCount", "hardwareCount", .integer, "Hardware Count", .raw⟩,
  ⟨"virtualGuestCount", "virtualGuestCount", .integer, "Virtual Guest Count", .raw⟩]

/-- Virtual servers and the guests of dedicated hosts have the same columns. -/
def guestColumns : List ColumnDeclaration := [
  ⟨"id", "id", .integer, "ID", .raw⟩,
  ⟨"hostname", "hostname", .text, "Hostname", .raw⟩,
  ⟨"domain", "domain", .text, "Domain", .raw⟩,
  ⟨"cpu", "maxCpu", .integer, "CPU", .raw⟩,
  ⟨"memory", "maxMemory", .integer, "Memory", .raw⟩,
  ⟨"public_ip", "primaryIpAddress", .text, "Public IP", .raw⟩,
  ⟨"private_ip", "primaryBackendIpAddress", .text, "Private IP", .raw⟩,
  ⟨"datacenter", "datacenter.name", .text, "Datacenter", .raw⟩,
  ⟨"action", "activeTransaction.transactionStatus.name", .text, "Action", .raw⟩,
  ⟨"guid", "globalIdentifier", .text, "GUID", .raw⟩,
  ⟨"power_state", "powerState.name", .text, "Power State", .raw⟩,
  ⟨"created_by", creatorPath, .text, "Created By", .raw⟩,
  ⟨"tags", "tagReferences", .text, "Tags", .join "tag.name"⟩]

def volume : Declaration where
  kind := .volume
  columns := volumeColumns
  defaults := ["id", "username", "datacenter", "capacity_gb"]
  optional := ["storage_type", "bytes_used", "IOPs", "ip_addr", "lunId", "active_transactions",
               "rep_partner_count", "created_by", "notes"]
  sortable := ["id", "username", "datacenter", "storage_type", "capacity_gb", "bytes_used",
               "ip_addr", "lunId", "active_transactions", "created_by", "mount_addr"]
  defaultSort := some "id"

def snapshot : Declaration where
  kind := .snapshot
  columns := snapshotColumns
  defaults := ["id", "name", "created", "size_bytes"]
  optional := ["notes"]
  sortable := ["id", "name", "created", "size_bytes"]
  defaultSort := none

def accessHost : Declaration where
  kind := .accessHost
  columns := accessHostColumns
  defaults := ["id", "name", "type", "private_ip_address", "source_subnet", "host_iqn",
               "username", "password", "allowed_host_id"]
  optional := []
  sortable := ["id", "name", "type", "private_ip_address", "source_subnet", "host_iqn",
               "username", "password", "allowed_host_id"]
  defaultSort := some "allowed_host_id"

def subnet : Declaration where
  kind := .subnet
  columns := subnetColumns
  defaults := ["id", "identifier", "type", "network_space", "datacenter", "vlan_id", "IPs",
               "hardware", "virtual_servers"]
  optional := []
  sortable := ["id", "identifier", "type", "network_space", "datacenter", "vlan_id", "IPs",
               "hardware", "virtual_servers"]
  defaultSort := some "id"

def hardware : Declaration where
  kind := .hardware
  columns := hardwareColumns
  defaults := ["id", "hostname", "domain", "public_ip", "private_ip", "datacenter", "status"]
  optional := ["guid", "cpu", "memory", "os", "ipmi_ip", "created", "created_by", "tags"]
  sortable := ["id", "guid", "hostname", "domain", "public_ip", "private_ip", "cpu", "memory",
               "os", "datacenter", "status", "ipmi_ip", "created", "created_by"]
  defaultSort := some "hostname"

def user : Declaration where
  kind := .user
  columns := userColumns
  defaults := ["id", "username", "email", "displayName", "2FA", "classicAPIKey"]
  optional := ["status", "hardwareCount", "virtualGuestCount"]
  sortable := ["id", "username", "email", "displayName"]
  defaultSort := none

def guest (kind : Kind) (defaultSort : String) : Declaration where
  kind := kind
  columns := guestColumns
  defaults := ["id", "hostname", "domain", "cpu", "memory", "public_ip", "private_ip",
               "datacenter", "action"]
  optional := ["guid", "power_state", "created_by", "tags"]
  sortable := ["id", "hostname", "domain", "cpu", "memory", "public_ip", "private_ip",
               "datacenter"]
  defaultSort := some defaultSort

def declaration : Kind → Declaration
  | .volume => volume
  | .snapshot => snapshot
  | .accessHost => accessHost
  | .subnet => subnet
  | .hardware => hardware
  | .user => user
  | .virtualServer => guest .virtualServer "hostname"
  | .hostGuest => guest .hostGuest "id"

end RecordListing.Catalogue
